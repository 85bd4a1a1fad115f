import FlagReplica.Proofs.Cache.Run
/-!
# When a cache last changed

A cache records when it last changed, and whoever writes it to disk relies on that record: what is
recorded must not miss a change of what the cache holds, nor report one that did not happen. Which
turns are to be recorded is `Turn.Touches`. Four operations are recorded when they change something
(`Turn.Changes`), what is invalidated or purged is recorded in any case, and what is filled in is
never recorded, though it changes what the cache holds and may push something out.

Each of the four says by its result whether it changed something. So there are two steps: the
record follows the result, which is plain, and the result follows the change, for which equality
of values must be reflexive, and the cache must have room for one key, or what was written would
not be found.
-/

namespace FlagReplica.Cache

variable {κ α : Type} [DecidableEq κ] [BEq α]

/-- The turn changes what is found under some key. -/
def Turn.Changes (t : Turn κ α) : Prop := t.after.peek? ≠ t.before.peek?

/-- The turn is to be recorded as a change. -/
def Turn.Touches (t : Turn κ α) : Prop :=
  match t.op with
  | .set _ _ | .update _ _ | .remove _ | .resize _ => t.Changes
  | .invalidate _ | .purge => True
  | .get _ | .contains _ | .keys | .size | .fill _ _ => False

/-- What a cache records, and what its operations report, of each turn that may come. -/
structure RecordsChanges (c : Cache κ α) : Prop where
  touched : ∀ (now : Time) (op : Op κ α), (⟨c, now, op⟩ : Turn κ α).Touches →
    (op.after now c).updatedAt = some now
  untouched : ∀ (now : Time) (op : Op κ α), ¬ (⟨c, now, op⟩ : Turn κ α).Touches →
    (op.after now c).updatedAt = c.updatedAt
  set : ∀ now k v, (c.set now k v).1 = true ↔ (⟨c, now, .set k v⟩ : Turn κ α).Changes
  update : ∀ now k f, (c.update now k f).1 = true ↔ (⟨c, now, .update k f⟩ : Turn κ α).Changes
  remove : ∀ now k, (c.remove now k).1.isSome = true ↔ (⟨c, now, .remove k⟩ : Turn κ α).Changes
  /-- A change of the capacity reports how many keys it took away. -/
  resize : ∀ now n, (c.resize now n).1 =
    (c.keys.filter fun k => k ∉ (c.resize now n).2.keys).length
  /-- What is filled in changes the cache. -/
  fill : ∀ now k v, c.contains k = false → (⟨c, now, .fill k v⟩ : Turn κ α).Changes
  /-- And it pushes something out if the cache is full. -/
  fill_evicts : ∀ k v, c.contains k = false → c.size = c.capacity →
    ∃ l ∈ c.keys, l ∉ (c.fill k v).keys

section

variable {c : Cache κ α} {k : κ} {v : α} {now : Time}

/-! ## What is recorded -/

theorem updatedAt_snd_set :
    (c.set now k v).2.updatedAt = if (c.set now k v).1 then some now else c.updatedAt := by
  unfold Cache.set
  split <;> rfl

theorem updatedAt_snd_update {f : Option α → Option α} :
    (c.update now k f).2.updatedAt =
      if (c.update now k f).1 then some now else c.updatedAt := by
  unfold Cache.update
  split
  · exact updatedAt_snd_set
  · rfl

omit [BEq α] in
theorem updatedAt_snd_remove :
    (c.remove now k).2.updatedAt =
      if (c.remove now k).1.isSome then some now else c.updatedAt := by
  unfold Cache.remove
  split <;> rfl

omit [DecidableEq κ] [BEq α] in
theorem updatedAt_snd_resize {n : Nat} :
    (c.resize now n).2.updatedAt =
      if (c.resize now n).1 ≠ 0 then some now else c.updatedAt := by
  by_cases h : (c.resize now n).1 = 0
  · rw [if_neg (not_not_intro h)]
    simp only [Cache.resize] at h ⊢
    rw [if_pos h]
  · rw [if_pos h]
    simp only [Cache.resize] at h ⊢
    rw [if_neg h]
    rfl

/-! ## What is reported -/

/-- One key tells that something changed. -/
theorem changes_of_ne {t : Turn κ α} (h : t.after.peek? k ≠ t.before.peek? k) : t.Changes :=
  fun heq => h (congrFun heq k)

omit [BEq α] in
/-- What is put in is found, for there is room for one key at least. -/
theorem peek?_insert_self (hpos : 1 ≤ c.capacity) : (c.insert k v).peek? k = some v := by
  obtain ⟨n, hn⟩ : ∃ n, c.capacity = n + 1 := ⟨c.capacity - 1, by omega⟩
  simp only [peek?, insert, Table.put, hn, List.take_succ_cons, Table.get?_cons, if_true]

/-- **A write says whether it changed something.** -/
theorem fst_set_iff [ReflBEq α] (hpos : 1 ≤ c.capacity) :
    (c.set now k v).1 = true ↔ (c.set now k v).2.peek? ≠ c.peek? := by
  by_cases h : c.peek? k == some v
  · have hsame : c.set now k v = (false, c) := by rw [Cache.set, if_pos h]
    rw [hsame]
    exact iff_of_false Bool.false_ne_true fun hne => hne rfl
  · have hreport : (c.set now k v).1 = true := by rw [Cache.set, if_neg h]
    have hk : (c.set now k v).2.peek? k = some v := by
      rw [Cache.set, if_neg h]
      exact peek?_insert_self hpos
    refine iff_of_true hreport fun heq => h ?_
    rw [← heq, hk]
    exact BEq.rfl

theorem fst_update_iff [ReflBEq α] (hpos : 1 ≤ c.capacity) {f : Option α → Option α} :
    (c.update now k f).1 = true ↔ (c.update now k f).2.peek? ≠ c.peek? := by
  unfold Cache.update
  split
  · exact fst_set_iff hpos
  · exact iff_of_false Bool.false_ne_true fun hne => hne rfl

omit [BEq α] in
theorem fst_remove_iff :
    (c.remove now k).1.isSome = true ↔ (c.remove now k).2.peek? ≠ c.peek? := by
  rw [fst_remove]
  cases hk : c.peek? k with
  | some v =>
    refine iff_of_true rfl fun heq => ?_
    have hgone := congrFun heq k
    rw [peek?_snd_remove, if_pos rfl, hk] at hgone
    cases hgone
  | none =>
    -- nothing was there, so that nothing is missing
    refine iff_of_false Bool.false_ne_true fun hne => hne (funext fun l => ?_)
    rw [peek?_snd_remove]
    split
    · next hl => rw [hl, hk]
    · rfl

/-- What is past the first part of a list without duplicates is what is not in that part. -/
theorem filter_notMem_take {ks : List κ} (h : ks.Nodup) (n : Nat) :
    ks.filter (· ∉ ks.take n) = ks.drop n := by
  have hdisjoint : ∀ k ∈ ks.drop n, k ∉ ks.take n := by
    intro k hdrop htake
    rw [← List.take_append_drop n ks, List.nodup_append] at h
    exact h.2.2 k htake k hdrop rfl
  calc ks.filter (· ∉ ks.take n)
      = (ks.take n ++ ks.drop n).filter (· ∉ ks.take n) := by rw [List.take_append_drop]
    _ = (ks.take n).filter (· ∉ ks.take n) ++ (ks.drop n).filter (· ∉ ks.take n) :=
      List.filter_append _ _
    _ = ks.drop n := by
      rw [List.filter_eq_nil_iff.mpr (by simp), List.nil_append, List.filter_eq_self]
      simpa using hdisjoint

omit [DecidableEq κ] [BEq α] in
theorem keys_snd_resize {n : Nat} : (c.resize now n).2.keys = c.keys.take (max n 1) := by
  simp only [Cache.resize]
  split
  · exact List.map_take
  · exact List.map_take

omit [BEq α] in
theorem fst_resize (hc : c.keys.Nodup) {n : Nat} :
    (c.resize now n).1 = (c.keys.filter fun k => k ∉ (c.resize now n).2.keys).length := by
  rw [keys_snd_resize, filter_notMem_take hc]
  simp only [Cache.resize, size, keys, List.length_drop, List.length_take, List.length_map]
  omega

omit [BEq α] in
theorem fst_resize_iff (hc : c.keys.Nodup) {n : Nat} :
    (c.resize now n).1 ≠ 0 ↔ (c.resize now n).2.peek? ≠ c.peek? := by
  refine not_congr ⟨?_, ?_⟩
  · intro hzero
    have hle : c.entries.length ≤ max n 1 := by
      simp only [Cache.resize, size, List.length_take] at hzero
      omega
    simp only [Cache.resize] at hzero ⊢
    rw [if_pos hzero, List.take_of_length_le hle]
    rfl
  · intro heq
    -- a key that is counted as gone would still be found
    rw [fst_resize hc, List.length_eq_zero_iff, List.filter_eq_nil_iff]
    intro k hk
    rw [decide_not, Bool.not_eq_true, Bool.not_eq_false', decide_eq_true_iff, ← contains_iff,
      contains, heq]
    exact contains_iff.mpr hk

omit [BEq α] in
/-- What is filled in of an absent key is found. -/
theorem peek?_fill_self (hpos : 1 ≤ c.capacity) (h : c.contains k = false) :
    (c.fill k v).peek? k = some v := by
  rw [Cache.fill, if_neg (by simp [h])]
  exact peek?_insert_self hpos

/-- A full cache that takes in another key has to give one away. -/
theorem exists_left_of_fill (hc : c.Sound) (h : c.contains k = false) (hfull : c.size = c.capacity) :
    ∃ l ∈ c.keys, l ∉ (c.fill k v).keys := by
  by_contra hnone
  push Not at hnone
  have hafter : (c.fill k v).Sound := Sound.after (t := ⟨c, 0, .fill k v⟩) hc
  have hnew : k ∈ (c.fill k v).keys := by
    rw [← contains_iff, Cache.contains, peek?_fill_self hc.pos h, Option.isSome_some]
  have hnodup : (k :: c.keys).Nodup := by
    rw [List.nodup_cons, ← contains_iff, h]
    exact ⟨Bool.false_ne_true, hc.nodup⟩
  have hsub : k :: c.keys ⊆ (c.fill k v).keys := List.cons_subset.mpr ⟨hnew, hnone⟩
  have hle := (List.subperm_of_subset hnodup hsub).length_le
  have hroom := hafter.length_le
  have hcapacity : (c.fill k v).capacity = c.capacity :=
    Turn.capacity_after ⟨c, 0, .fill k v⟩
  have hsize : c.size = c.keys.length := (List.length_map _).symm
  rw [List.length_cons] at hle
  omega

/-! ## Every run -/

/-- What is recorded if a result is true follows every condition that the result follows. -/
theorem recorded_of_iff {p touches : Prop} [Decidable p] {before after : Option Time}
    (h : after = if p then some now else before) (hp : p ↔ touches) :
    (touches → after = some now) ∧ (¬ touches → after = before) := by
  constructor
  · intro ht
    rw [h, if_pos (hp.mpr ht)]
  · intro ht
    rw [h, if_neg fun hresult => ht (hp.mp hresult)]

/-- **What a turn records** is what is to be recorded of it. -/
theorem updatedAt_after [ReflBEq α] (hc : c.Sound) (now : Time) (op : Op κ α) :
    ((⟨c, now, op⟩ : Turn κ α).Touches → (op.after now c).updatedAt = some now) ∧
    (¬ (⟨c, now, op⟩ : Turn κ α).Touches → (op.after now c).updatedAt = c.updatedAt) := by
  cases op with
  | set k v => exact recorded_of_iff updatedAt_snd_set (fst_set_iff hc.pos)
  | update k f => exact recorded_of_iff updatedAt_snd_update (fst_update_iff hc.pos)
  | remove k => exact recorded_of_iff updatedAt_snd_remove fst_remove_iff
  | resize n => exact recorded_of_iff updatedAt_snd_resize (fst_resize_iff hc.nodup)
  | invalidate k | purge => exact ⟨fun _ => rfl, fun h => absurd trivial h⟩
  | get k => exact ⟨fun h => h.elim, fun _ => updatedAt_snd_get⟩
  | fill k v => exact ⟨fun h => h.elim, fun _ => updatedAt_fill⟩
  | contains k | keys | size => exact ⟨fun h => h.elim, fun _ => rfl⟩

theorem recordsChanges_of_sound [ReflBEq α] (hc : c.Sound) : RecordsChanges c where
  touched now op := (updatedAt_after hc now op).1
  untouched now op := (updatedAt_after hc now op).2
  set now k v := fst_set_iff hc.pos
  update now k f := fst_update_iff hc.pos
  remove now k := fst_remove_iff
  resize now n := fst_resize hc.nodup
  fill now k v h := by
    refine changes_of_ne (k := k) ?_
    change (c.fill k v).peek? k ≠ c.peek? k
    have hnone : c.peek? k = none := by simpa [Cache.contains] using h
    rw [peek?_fill_self hc.pos h, hnone]
    exact Option.some_ne_none v
  fill_evicts k v h hfull := exists_left_of_fill hc h hfull

/-- Nothing is recorded as long as nothing was to be recorded. -/
theorem updatedAt_afterAll_eq_none_iff [ReflBEq α] (capacity : Nat) (ops : List (Time × Op κ α)) :
    ((empty capacity).afterAll ops).updatedAt = none ↔
      ∀ t ∈ (empty capacity).turns ops, ¬ t.Touches := by
  induction ops using List.reverseRecOn with
  | nil => simp [afterAll, turns, empty]
  | append_singleton ops op ih =>
    obtain ⟨now, op⟩ := op
    have hrecord := updatedAt_after (sound_afterAll capacity ops) now op
    rw [afterAll_append_singleton, turns_append_singleton, List.forall_mem_append,
      List.forall_mem_singleton, ← ih]
    by_cases htouches : (⟨(empty capacity).afterAll ops, now, op⟩ : Turn κ α).Touches
    · simp [Turn.after, hrecord.1 htouches, htouches]
    · simp [Turn.after, hrecord.2 htouches, htouches]

/-- **A cache records when it last changed.** After every run, what comes next is recorded if it is
to be recorded and not otherwise, and what the operations report is what they change; and as long as
nothing is recorded, nothing was to be recorded. -/
theorem records_changes [ReflBEq α] (capacity : Nat) (ops : List (Time × Op κ α)) :
    let c := (empty capacity : Cache κ α).afterAll ops
    RecordsChanges c ∧
      (c.updatedAt = none ↔ ∀ t ∈ (empty capacity : Cache κ α).turns ops, ¬ t.Touches) :=
  ⟨recordsChanges_of_sound (sound_afterAll capacity ops),
    updatedAt_afterAll_eq_none_iff capacity ops⟩

/-- A full cache of two: what is filled in pushes the key that was not used out, and the record
still shows the write before. -/
theorem records_changes_full :
    let c := (empty 2 : Cache Nat Nat).afterAll
      [(1, .set 1 10), (2, .set 2 20), (3, .get 1), (4, .fill 3 30)]
    RecordsChanges c ∧ c.keys = [3, 1] ∧ c.updatedAt = some 2 :=
  ⟨(records_changes 2 _).1, by decide, by decide⟩

end

end FlagReplica.Cache
