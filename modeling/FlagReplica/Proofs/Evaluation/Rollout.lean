import FlagReplica.Repository.Host
import Mathlib.Data.Set.Card
import Mathlib.Order.Interval.Finset.Nat
import Mathlib.Order.Interval.Set.Nat
/-!
# Buckets are dealt by weight

A distribution walks its entries with a total that is cut off at the largest 32-bit number, passes
over entries that weigh nothing, and falls back on the last entry. None of the three shows: a bucket
goes to the first entry up to which the exact weights come to the bucket, or else to the last one
(`Distribution.deals_iff`). So an entry gets as many of the hundred buckets as it adds to the exact
total below one hundred (`Distribution.share_eq`), and to shift weight to the front of a list takes
no bucket away from the front (`Distribution.Deals.of_total_le`).

Two entries may have one variation, so which of them was dealt a bucket cannot be told from what is
served. `Deals` says it without looking inside: whatever the entries are called, what comes of the
bucket is what that entry is called.
-/

namespace FlagReplica

namespace Target

/-- A target falls into one of the hundred buckets, whichever attribute decides. -/
theorem bucket_mem (t : Target) (bucketBy : String) :
    1 ≤ t.bucket bucketBy ∧ t.bucket bucketBy ≤ 100 := by
  rw [bucket]
  split
  · exact FlagReplica.bucket_mem _ _
  · exact FlagReplica.bucket_mem _ _

/-- The bucket is the same with a warning and without. -/
theorem value_reportBucket (t : Target) (bucketBy : String) (r : Repository) :
    ((t.reportBucket Repository.host bucketBy).run r).value = t.bucket bucketBy := by
  rw [reportBucket]
  split <;> rfl

theorem isEnabled_iff (t : Target) (bucketBy : String) (p : UInt32) :
    t.isEnabled bucketBy p ↔ t.bucket bucketBy ≤ p.toNat := by
  have hone : 1 ≤ t.bucket bucketBy := (t.bucket_mem bucketBy).1
  have hzero : (0 : UInt32).toNat = 0 := rfl
  rw [isEnabled, Bool.and_eq_true, decide_eq_true_iff, decide_eq_true_iff, UInt32.lt_iff_toNat_lt,
    hzero]
  omega

/-- Nobody is enabled for a percentage of zero, so nothing is missed by not looking. -/
theorem value_reportEnabled (t : Target) (bucketBy : String) (p : UInt32) (r : Repository) :
    ((t.reportEnabled Repository.host bucketBy p).run r).value = t.isEnabled bucketBy p := by
  rw [reportEnabled]
  by_cases hp : p = 0
  · subst hp
    rfl
  · have hpos : 0 < p := UInt32.pos_iff_ne_zero.mpr hp
    rw [if_neg hp, bind_pure_comp, Action.run_map, t.value_reportBucket, isEnabled,
      decide_eq_true hpos, Bool.true_and]

end Target

namespace Distribution

/-- What is served is the same with a warning and without. -/
theorem value_report (d : Distribution) (t : Target) (r : Repository) :
    ((d.report Repository.host t).run r).value = d.resolve? t := by
  rw [report, Action.run_map, t.value_reportBucket, resolve?]

variable {d e : Distribution} {t : Target} {w : WeightedVariation} {ws : List WeightedVariation}
variable {b i j : Nat}

/-! ## Exact totals -/

/-- The exact sum of some weights. -/
def weigh (ws : List WeightedVariation) : Nat := (ws.map fun w => w.weight.toNat).sum

/-- The exact sum of the first so many weights. -/
def total (d : Distribution) (n : Nat) : Nat := weigh (d.variations.take n)

@[simp] theorem weigh_nil : weigh [] = 0 := rfl

@[simp] theorem weigh_cons (w : WeightedVariation) (ws : List WeightedVariation) :
    weigh (w :: ws) = w.weight.toNat + weigh ws := List.sum_cons

@[simp] theorem total_zero (d : Distribution) : d.total 0 = 0 := rfl

theorem weigh_take_succ (h : ws[i]? = some w) :
    weigh (ws.take (i + 1)) = weigh (ws.take i) + w.weight.toNat := by
  rw [List.take_add_one, h, weigh, weigh, List.map_append, List.sum_append]
  simp

theorem total_succ (h : d.variations[i]? = some w) :
    d.total (i + 1) = d.total i + w.weight.toNat := weigh_take_succ h

/-- Totals only go up. -/
theorem total_mono (d : Distribution) : Monotone d.total := by
  refine monotone_nat_of_le_succ fun n => ?_
  cases h : d.variations[n]? with
  | some w => rw [total_succ h]; omega
  | none =>
    have hlen : d.variations.length ≤ n := List.getElem?_eq_none_iff.mp h
    rw [total, total, List.take_of_length_le hlen, List.take_of_length_le (by omega)]

/-! ## The walk -/

/-- **The walk stops at the entry whose weight takes the total to the bucket.** As long as the total
is below the bucket it is exact, since no bucket is beyond what is kept apart. -/
theorem pickFrom_eq_some (hb : b ≤ maxTotal) {sum : Nat} (hw : ws[i]? = some w)
    (hbefore : sum + weigh (ws.take i) < b) (hhere : b ≤ sum + weigh (ws.take (i + 1))) :
    pickFrom b sum ws = some w.variation := by
  induction ws generalizing sum i with
  | nil => simp at hw
  | cons x xs ih =>
    rw [pickFrom]
    cases i with
    | zero =>
      obtain rfl : x = w := by simpa using hw
      simp at hbefore hhere
      have hpos : 0 < x.weight := by
        rw [UInt32.lt_iff_toNat_lt]
        change 0 < x.weight.toNat
        omega
      rw [if_pos ⟨hpos, by omega⟩]
    | succ i =>
      simp at hw hbefore hhere
      rw [if_neg fun h => by omega, Nat.min_eq_left (by omega)]
      exact ih hw (by omega) (by omega)

/-- It passes all entries if their weights do not come to the bucket. -/
theorem pickFrom_eq_none (hb : b ≤ maxTotal) {sum : Nat} (h : sum + weigh ws < b) :
    pickFrom b sum ws = none := by
  induction ws generalizing sum with
  | nil => rfl
  | cons x xs ih =>
    rw [weigh_cons] at h
    rw [pickFrom, if_neg fun h => by omega, Nat.min_eq_left (by omega)]
    exact ih (by omega)

/-- The position that a bucket falls to by exact totals: the first up to which the weights come to
the bucket, or else the last. -/
def IsDue (d : Distribution) (bucket i : Nat) : Prop :=
  IsLeast {i | i < d.variations.length ∧
    (bucket ≤ d.total (i + 1) ∨ i + 1 = d.variations.length)} i

/-- All totals before that position are below the bucket. -/
theorem isDue_iff (hb : 1 ≤ b) : d.IsDue b i ↔
    i < d.variations.length ∧ d.total i < b ∧
      (b ≤ d.total (i + 1) ∨ i + 1 = d.variations.length) := by
  constructor
  · rintro ⟨⟨hlen, hreach⟩, hleast⟩
    refine ⟨hlen, ?_, hreach⟩
    cases i with
    | zero => rw [total_zero]; omega
    | succ k =>
      by_contra hlt
      have hk : k + 1 ≤ k := hleast ⟨by omega, .inl (by omega)⟩
      omega
  · rintro ⟨hlen, hbelow, hreach⟩
    refine ⟨⟨hlen, hreach⟩, fun k hk => ?_⟩
    obtain ⟨hklen, hkreach⟩ := hk
    by_contra hlt
    have hmono : d.total (k + 1) ≤ d.total i := d.total_mono (by omega)
    omega

/-- Where there are entries, each bucket falls to one. -/
theorem exists_isDue (h : d.variations ≠ []) (b : Nat) : ∃ i, d.IsDue b i := by
  have hlen : 0 < d.variations.length := List.length_pos_iff.mpr h
  have hsome : ∃ i, i < d.variations.length ∧
      (b ≤ d.total (i + 1) ∨ i + 1 = d.variations.length) :=
    ⟨d.variations.length - 1, by omega, .inr (by omega)⟩
  exact ⟨Nat.find hsome, Nat.find_spec hsome, fun _ hk => Nat.find_min' hsome hk⟩

/-- **The entry that a bucket falls to is picked.** -/
theorem IsDue.pick?_eq (h : d.IsDue b i) (hb : 1 ≤ b) (hmax : b ≤ maxTotal)
    (hw : d.variations[i]? = some w) : d.pick? b = some w.variation := by
  obtain ⟨hlen, hbelow, hreach⟩ := (isDue_iff hb).mp h
  by_cases hhere : b ≤ d.total (i + 1)
  · have hpick : pickFrom b 0 d.variations = some w.variation :=
      pickFrom_eq_some hmax hw (by simpa [total] using hbelow) (by simpa [total] using hhere)
    rw [pick?, hpick, Option.some_or]
  · -- the weights of all entries together do not come to the bucket, and this entry is the last
    have hlast : i + 1 = d.variations.length := by omega
    have hall : weigh d.variations < b := by
      rw [total, hlast, List.take_length] at hhere
      omega
    have hpick : pickFrom b 0 d.variations = none := pickFrom_eq_none hmax (by omega)
    have hget : d.variations.getLast? = some w := by
      rw [List.getLast?_eq_getElem?, ← hlast, Nat.add_sub_cancel, hw]
    rw [pick?, hpick, hget]
    rfl

/-- A total that 32 bits do not hold still comes to every bucket. -/
example : pick? ⟨"identifier", [⟨"x", 1⟩, ⟨"y", 0xFFFFFFFF⟩, ⟨"z", 9⟩]⟩ 2 = some "y" := by decide

/-! ## Positions -/

/-- The distribution with its entries called something else. -/
def named (d : Distribution) (name : Nat → String) : Distribution :=
  { d with variations := d.variations.mapIdx fun i w => ⟨name i, w.weight⟩ }

/-- The bucket is dealt to the entry at a position: whatever the entries are called, what comes of
the bucket is what that entry is called. -/
def Deals (d : Distribution) (bucket i : Nat) : Prop :=
  ∀ name : Nat → String, (d.named name).pick? bucket = some (name i)

/-- The target is served the entry at a position, whatever the entries are called. -/
def Serves (d : Distribution) (t : Target) (i : Nat) : Prop :=
  ∀ name : Nat → String, (d.named name).resolve? t = some (name i)

/-- A target is served what the bucket is dealt that it falls into. -/
theorem serves_iff_deals : d.Serves t i ↔ d.Deals (t.bucket d.bucketBy) i := Iff.rfl

theorem length_named (d : Distribution) (name : Nat → String) :
    (d.named name).variations.length = d.variations.length := List.length_mapIdx

theorem total_named (d : Distribution) (name : Nat → String) : (d.named name).total = d.total := by
  funext n
  have hweights : (d.named name).variations.map (fun w => w.weight.toNat) =
      d.variations.map fun w => w.weight.toNat := by
    refine List.ext_getElem (by simp [named]) fun i hi hi' => ?_
    simp [named]
  rw [total, total, weigh, weigh, List.map_take, List.map_take, hweights]

/-- What the entry at a position is called. -/
def called (d : Distribution) (i : Nat) : String := (d.variations[i]?.map (·.variation)).getD ""

theorem called_eq (hw : d.variations[i]? = some w) : d.called i = w.variation := by
  rw [called, hw]
  rfl

/-- With its entries called what they are called, a distribution is as it was. -/
theorem named_called (d : Distribution) : d.named d.called = d := by
  have hsame : d.variations.mapIdx (fun i w => (⟨d.called i, w.weight⟩ : WeightedVariation)) =
      d.variations := by
    refine List.ext_getElem List.length_mapIdx fun i hi hi' => ?_
    rw [List.getElem_mapIdx, called_eq (List.getElem?_eq_getElem hi')]
  rw [named, hsame]

theorem IsDue.deals (h : d.IsDue b i) (hb : 1 ≤ b) (hmax : b ≤ maxTotal) : d.Deals b i := by
  intro name
  have hdue : (d.named name).IsDue b i := by
    rw [IsDue, length_named, total_named]
    exact h
  obtain ⟨w, hw⟩ : ∃ w, d.variations[i]? = some w := ⟨_, List.getElem?_eq_getElem h.1.1⟩
  have hcalled : (d.named name).variations[i]? = some ⟨name i, w.weight⟩ := by
    rw [named, List.getElem?_mapIdx, hw]
    rfl
  exact hdue.pick?_eq hb hmax hcalled

/-- A bucket is dealt to no two entries. -/
theorem Deals.unique (hi : d.Deals b i) (hj : d.Deals b j) : i = j := by
  let name (k : Nat) : String := if k = j then "this" else "other"
  have hname : name i = name j := Option.some.inj ((hi name).symm.trans (hj name))
  by_contra hne
  simp [name, hne] at hname

/-- What comes of a bucket is what the entry is called that it is dealt to. -/
theorem Deals.pick?_eq (h : d.Deals b i) : d.pick? b = some (d.called i) := by
  have hcalled := h d.called
  rwa [named_called] at hcalled

theorem pick?_eq_none_iff : d.pick? b = none ↔ d.variations = [] := by
  rw [pick?, Option.or_eq_none_iff, Option.map_eq_none_iff, List.getLast?_eq_none_iff]
  refine ⟨fun h => h.2, fun h => ⟨by rw [h]; rfl, h⟩⟩

/-- **A bucket is dealt by exact totals.** -/
theorem deals_iff (hb : 1 ≤ b) (hmax : b ≤ maxTotal) : d.Deals b i ↔ d.IsDue b i := by
  refine ⟨fun h => ?_, fun h => h.deals hb hmax⟩
  have hne : d.variations ≠ [] := by
    intro hnil
    have hnone : d.pick? b = none := pick?_eq_none_iff.mpr hnil
    rw [h.pick?_eq] at hnone
    cases hnone
  obtain ⟨k, hk⟩ := exists_isDue hne b
  rw [h.unique (hk.deals hb hmax)]
  exact hk

theorem bucket_le_maxTotal (hb : b ≤ 100) : b ≤ maxTotal := by
  have : 100 ≤ maxTotal := by decide
  omega

/-! ## Shares -/

/-- How many of the hundred buckets are dealt to the entry at a position. -/
noncomputable def share (d : Distribution) (i : Nat) : Nat :=
  {b | b ∈ Set.Icc 1 100 ∧ d.Deals b i}.ncard

/-- The buckets between two totals are as many as the totals differ below one hundred. -/
theorem share_eq_of_iff {low high : Nat} (hhigh : high ≤ 100)
    (h : ∀ b, 1 ≤ b → b ≤ 100 → (d.Deals b i ↔ low < b ∧ b ≤ high)) : d.share i = high - low := by
  have hset : {b | b ∈ Set.Icc 1 100 ∧ d.Deals b i} = Set.Ioc low high := by
    ext b
    rw [Set.mem_ofPred_eq, Set.mem_Icc, Set.mem_Ioc]
    constructor
    · rintro ⟨⟨hone, hle⟩, hdeals⟩
      exact (h b hone hle).mp hdeals
    · intro hb
      exact ⟨⟨by omega, by omega⟩, (h b (by omega) (by omega)).mpr hb⟩
  rw [share, hset, Set.ncard_eq_toFinset_card', Set.toFinset_Ioc, Nat.card_Ioc]

/-- **An entry gets as many buckets as it adds to the total** below one hundred. -/
theorem share_eq (h : i + 1 < d.variations.length) :
    d.share i = min (d.total (i + 1)) 100 - min (d.total i) 100 := by
  refine share_eq_of_iff (by omega) fun b hb hle => ?_
  rw [deals_iff hb (bucket_le_maxTotal hle), isDue_iff hb]
  omega

/-- **The last entry gets all the rest.** -/
theorem share_last (h : i + 1 = d.variations.length) :
    d.share i = 100 - min (d.total i) 100 := by
  refine share_eq_of_iff le_rfl fun b hb hle => ?_
  rw [deals_iff hb (bucket_le_maxTotal hle), isDue_iff hb]
  omega

/-- Where the weights come to one hundred, each entry gets just its weight. -/
theorem share_eq_weight (hall : d.total d.variations.length = 100)
    (hw : d.variations[i]? = some w) : d.share i = w.weight.toNat := by
  have hlen : i < d.variations.length := (List.getElem?_eq_some_iff.mp hw).1
  have hsucc : d.total (i + 1) = d.total i + w.weight.toNat := total_succ hw
  have hle : d.total (i + 1) ≤ d.total d.variations.length := d.total_mono (by omega)
  rcases Nat.lt_or_ge (i + 1) d.variations.length with hinner | hlast
  · rw [share_eq hinner]
    omega
  · have hlast : i + 1 = d.variations.length := by omega
    rw [share_last hlast]
    rw [← hlast] at hall
    omega

/-- An entry that weighs nothing gets nothing, unless it is the last. -/
theorem share_eq_zero (h : i + 1 < d.variations.length) (hw : d.variations[i]? = some w)
    (hzero : w.weight = 0) : d.share i = 0 := by
  have hsucc : d.total (i + 1) = d.total i + w.weight.toNat := total_succ hw
  rw [share_eq h, hsucc, hzero]
  exact Nat.sub_self _

/-- **What is served is dealt by weight.** Every target falls into one of a hundred buckets. It is
served nothing only where there are no entries, and otherwise the entry at the first position up to
which the exact weights come to its bucket, or at the last if there is none. Of the hundred buckets
an entry gets as many as its weight adds to the exact total below one hundred, and the last entry
gets the rest. So where the weights come to one hundred each entry gets just its weight, and an
entry before the last that weighs nothing gets nothing. -/
theorem serves_by_weight (d : Distribution) :
    (∀ t : Target, t.bucket d.bucketBy ∈ Set.Icc 1 100 ∧
      (∀ r, ((d.report Repository.host t).run r).value = d.resolve? t) ∧
      (d.resolve? t = none ↔ d.variations = []) ∧
      (∀ i, d.Serves t i ↔ d.IsDue (t.bucket d.bucketBy) i) ∧
      (d.variations ≠ [] → ∃ i w, d.IsDue (t.bucket d.bucketBy) i ∧
        d.variations[i]? = some w ∧ d.resolve? t = some w.variation)) ∧
    (∀ i, i + 1 < d.variations.length →
      d.share i = min (d.total (i + 1)) 100 - min (d.total i) 100) ∧
    (∀ i, i + 1 = d.variations.length → d.share i = 100 - min (d.total i) 100) ∧
    (d.total d.variations.length = 100 →
      ∀ i w, d.variations[i]? = some w → d.share i = w.weight.toNat) ∧
    ∀ i w, i + 1 < d.variations.length → d.variations[i]? = some w → w.weight = 0 →
      d.share i = 0 := by
  refine ⟨fun t => ?_, fun i h => share_eq h, fun i h => share_last h,
    fun hall i w hw => share_eq_weight hall hw, fun i w h hw hzero => share_eq_zero h hw hzero⟩
  obtain ⟨hone, hle⟩ := t.bucket_mem d.bucketBy
  have hserves (i : Nat) : d.Serves t i ↔ d.IsDue (t.bucket d.bucketBy) i :=
    deals_iff hone (bucket_le_maxTotal hle)
  refine ⟨⟨hone, hle⟩, value_report d t, pick?_eq_none_iff, hserves, fun hne => ?_⟩
  obtain ⟨i, hi⟩ := exists_isDue hne (t.bucket d.bucketBy)
  obtain ⟨w, hw⟩ : ∃ w, d.variations[i]? = some w := ⟨_, List.getElem?_eq_getElem hi.1.1⟩
  have hpick : d.resolve? t = some (d.called i) :=
    (hi.deals hone (bucket_le_maxTotal hle)).pick?_eq
  exact ⟨i, w, hi, hw, by rw [hpick, called_eq hw]⟩

/-- An entry that weighs nothing before two that share the buckets. -/
def unevenDistribution : Distribution :=
  ⟨"identifier", [⟨"none", 0⟩, ⟨"some", 30⟩, ⟨"rest", 70⟩]⟩

/-- The two get their weights, and a target of the sixth bucket is served the first of them. -/
theorem serves_by_weight_unevenDistribution :
    unevenDistribution.total unevenDistribution.variations.length = 100 ∧
      unevenDistribution.share 0 = 0 ∧ unevenDistribution.share 1 = 30 ∧
      unevenDistribution.share 2 = 70 ∧
      (Target.ofIdentifier "harness").bucket "identifier" = 6 ∧
      unevenDistribution.Serves (.ofIdentifier "harness") 1 ∧
      unevenDistribution.resolve? (.ofIdentifier "harness") = some "some" := by
  have hall : unevenDistribution.total unevenDistribution.variations.length = 100 := by decide
  have hbucket : (Target.ofIdentifier "harness").bucket "identifier" = 6 := by decide +kernel
  obtain ⟨htarget, hinner, hlast, hweight, hzero⟩ := serves_by_weight unevenDistribution
  obtain ⟨-, -, -, hserves, hentry⟩ := htarget (.ofIdentifier "harness")
  obtain ⟨i, w, hi, hw, hresolve⟩ := hentry (by decide)
  have hdue : unevenDistribution.IsDue ((Target.ofIdentifier "harness").bucket "identifier") 1 := by
    rw [hbucket, isDue_iff (by decide)]
    decide
  obtain rfl : i = 1 := hi.unique hdue
  cases hw
  refine ⟨hall, hzero 0 _ (by decide) rfl rfl, hinner 1 (by decide), hlast 2 rfl, hbucket,
    (hserves 1).mpr hdue, hresolve⟩

/-! ## More weight in front -/

/-- **More weight in front takes no bucket away from the front.** -/
theorem Deals.of_total_le (hb : 1 ≤ b) (hmax : b ≤ maxTotal)
    (hlen : e.variations.length = d.variations.length) (htotal : d.total j ≤ e.total j)
    (h : d.Deals b i) (hij : i < j) : ∃ k < j, e.Deals b k := by
  obtain ⟨hilen, -, hireach⟩ := (isDue_iff hb).mp ((deals_iff hb hmax).mp h)
  have hne : e.variations ≠ [] := List.length_pos_iff.mp (by omega)
  obtain ⟨k, hk⟩ := exists_isDue hne b
  refine ⟨k, ?_, hk.deals hb hmax⟩
  obtain ⟨hklen, hkbelow, -⟩ := (isDue_iff hb).mp hk
  by_contra hjk
  -- the entry dealt before is not the last one, so the weights up to it come to the bucket
  have hreached : b ≤ d.total (i + 1) := by omega
  have hfront : d.total (i + 1) ≤ d.total j := d.total_mono hij
  have hback : e.total j ≤ e.total k := e.total_mono (by omega)
  omega

/-- To be among the first so many buckets is to be served the first of two entries that weighs so
much. -/
theorem isEnabled_iff_serves (t : Target) (bucketBy : String) (p q : UInt32) (v w : String) :
    t.isEnabled bucketBy p ↔ Distribution.Serves ⟨bucketBy, [⟨v, p⟩, ⟨w, q⟩]⟩ t 0 := by
  obtain ⟨hone, hle⟩ := t.bucket_mem bucketBy
  have htotal : Distribution.total ⟨bucketBy, [⟨v, p⟩, ⟨w, q⟩]⟩ 1 = p.toNat := Nat.add_zero _
  have hlength : (⟨bucketBy, [⟨v, p⟩, ⟨w, q⟩]⟩ : Distribution).variations.length = 2 := rfl
  rw [serves_iff_deals, deals_iff hone (bucket_le_maxTotal hle), isDue_iff hone, t.isEnabled_iff,
    hlength, htotal, total_zero]
  omega

/-- **A rollout that grows takes nobody out.** Take two distributions by one attribute over the same
variations, and some entries in front that weigh at least as much in the second as in the first, by
exact sums. If the first serves a target one of these entries, so does the second. To be enabled for
a percentage is to be served the first of two entries of that weight, whatever the other weighs, so
who is enabled stays so when the percentage grows. -/
theorem keeps_served (t : Target) :
    (∀ d e : Distribution, e.bucketBy = d.bucketBy →
      e.variations.map (·.variation) = d.variations.map (·.variation) →
      ∀ j, d.total j ≤ e.total j → (∃ i < j, d.Serves t i) → ∃ k < j, e.Serves t k) ∧
    ∀ (bucketBy : String) (p : UInt32),
      (∀ r, ((t.reportEnabled Repository.host bucketBy p).run r).value =
        t.isEnabled bucketBy p) ∧
      (∀ (q : UInt32) (v w : String), t.isEnabled bucketBy p ↔
        Distribution.Serves ⟨bucketBy, [⟨v, p⟩, ⟨w, q⟩]⟩ t 0) ∧
      ∀ p', p ≤ p' → t.isEnabled bucketBy p → t.isEnabled bucketBy p' := by
  refine ⟨fun d e hby hnames j htotal hserved => ?_, fun bucketBy p => ⟨?_, ?_, ?_⟩⟩
  · obtain ⟨i, hij, hi⟩ := hserved
    obtain ⟨hone, hle⟩ := t.bucket_mem d.bucketBy
    have hlen : e.variations.length = d.variations.length := by
      simpa using congrArg List.length hnames
    have hdeals : d.Deals (t.bucket d.bucketBy) i := serves_iff_deals.mp hi
    obtain ⟨k, hkj, hk⟩ := hdeals.of_total_le hone (bucket_le_maxTotal hle) hlen htotal hij
    refine ⟨k, hkj, ?_⟩
    rw [serves_iff_deals, hby]
    exact hk
  · exact t.value_reportEnabled bucketBy p
  · exact fun q v w => isEnabled_iff_serves t bucketBy p q v w
  · intro p' hp henabled
    rw [t.isEnabled_iff] at henabled ⊢
    exact henabled.trans (UInt32.le_iff_toNat_le.mp hp)

/-- A target of the sixth bucket, in a rollout that goes from a tenth to a half and drops the weight
of the rest. -/
theorem keeps_served_growing :
    let small : Distribution := ⟨"identifier", [⟨"new", 10⟩, ⟨"old", 90⟩]⟩
    let large : Distribution := ⟨"identifier", [⟨"new", 50⟩, ⟨"old", 0⟩]⟩
    let t : Target := .ofIdentifier "harness"
    t.isEnabled "identifier" 10 ∧ small.Serves t 0 ∧ (∃ k < 1, large.Serves t k) ∧
      t.isEnabled "identifier" 101 := by
  intro small large t
  have henabled : t.isEnabled "identifier" 10 := by decide +kernel
  obtain ⟨hgrows, hpercentage⟩ := keeps_served t
  obtain ⟨-, hfirst, hmono⟩ := hpercentage "identifier" 10
  have hserves : small.Serves t 0 := (hfirst 90 "new" "old").mp henabled
  exact ⟨henabled, hserves,
    hgrows small large rfl rfl 1 (by decide) ⟨0, by decide, hserves⟩,
    hmono 101 (by decide) henabled⟩

end Distribution

end FlagReplica
