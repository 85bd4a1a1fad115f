import FlagReplica.Proofs.Evaluation.Prerequisites
/-!
# Membership as the solution of equations

Segments ask about one another, and may do so in circles. The search cuts a circle off by taking a
segment that is being asked about for one that the target is not in, so what it says of a segment on
the way depends on how it came there. What it says of the segment it starts at does not: if no circle
goes through a negated clause, those answers solve the equations that the segments write down
(`members_solve`), and if no clause is negated they are the least solution.

Two facts carry this. The search sees of the segments being asked about only those that it can come
to (`inside_congr`). And a segment that has the target in it does so without asking about a given one
that leads to it, or that one has the target in it as well (`inside_cut`): a way that goes through a
segment starts over there. Negated clauses stand in the way of neither, for what they ask about leads
to nothing that is being asked about.
-/

namespace FlagReplica.Snapshot

open Relation

variable (s : Snapshot) (t : Target)

/-! ## The equations -/

/-- The segment found under the first identifier has a clause that asks about the second. -/
def Asks (a b : String) : Prop :=
  ∃ g, s.segment? a = some g ∧ ∃ c ∈ g.rules, c.op = .segmentMatch ∧ b ∈ c.values

/-- The segment found under the first identifier has a negated clause that asks about the second. -/
def AsksNot (a b : String) : Prop :=
  ∃ g, s.segment? a = some g ∧ ∃ c ∈ g.rules, c.op = .segmentMatch ∧ c.negate = true ∧ b ∈ c.values

/-- No circle goes through a negated clause. -/
def Stratified : Prop := ∀ a b, s.AsksNot a b → ¬ ReflTransGen s.Asks b a

/-- What a clause comes to, given which segments the target is in. Only a clause that lists segments
depends on these. -/
def clauseValue (x : String → Bool) (c : Clause) : Bool :=
  if c.op = .segmentMatch ∧ c.values ≠ [] then
    (c.values.any fun id => (s.segment? id).isSome && x id) != c.negate
  else (c.holds s.host s.budget t).run

/-- What a segment comes to, given which segments the target is in. -/
def segmentValue (x : String → Bool) (g : Segment) : Bool :=
  if isListed g.excluded t then false
  else if isListed g.included t then true
  else g.rules.any (s.clauseValue t x)

/-- The equation of each segment holds. -/
def Solves (x : String → Bool) : Prop :=
  ∀ id g, s.segment? id = some g → x id = s.segmentValue t x g

/-- Which segments the target is in. -/
def members (id : String) : Bool :=
  (s.segment? id).any fun g => (g.contains s.host s.budget t).run

/-- Which segments the target is in so many levels deep, while others are being asked about. -/
def inside (levels : Nat) (visiting : List String) (id : String) : Bool :=
  (s.segment? id).any fun g => (g.containsWithin s.host t levels visiting).run

variable {s t} {x y : String → Bool} {c : Clause} {g : Segment} {id : String}

/-- A segment is found under its own identifier. -/
theorem identifier_of_segment? (h : s.segment? id = some g) : g.identifier = id := by
  simpa using List.find?_some h

theorem asks_of_mem {b : String} (hg : s.segment? id = some g) (hc : c ∈ g.rules)
    (hop : c.op = .segmentMatch) (hb : b ∈ c.values) : s.Asks id b :=
  ⟨g, hg, c, hc, hop, hb⟩

/-- Whoever comes from a segment to what a negated clause of it asks about stays away from it. -/
theorem Stratified.not_reach (h : s.Stratified) {a b : String} (hg : s.segment? id = some g)
    (hc : c ∈ g.rules) (hop : c.op = .segmentMatch) (hnegate : c.negate = true)
    (hb : b ∈ c.values) (ha : ReflTransGen s.Asks a id) : ¬ ReflTransGen s.Asks b a :=
  fun hba => h id b ⟨g, hg, c, hc, hop, hnegate, hb⟩ (hba.trans ha)

/-- **A clause that holds goes on to hold** if what it asks about is kept, and stays the same where
the clause is negated. -/
theorem clauseValue_of_keeps
    (hkeep : c.op = .segmentMatch → c.negate = false → ∀ b ∈ c.values, x b = true → y b = true)
    (hsame : c.op = .segmentMatch → c.negate = true → ∀ b ∈ c.values, x b = y b)
    (h : s.clauseValue t x c = true) : s.clauseValue t y c = true := by
  by_cases hasks : c.op = .segmentMatch ∧ c.values ≠ []
  · rw [clauseValue, if_pos hasks] at h ⊢
    cases hnegate : c.negate with
    | true =>
      have hany : (c.values.any fun b => (s.segment? b).isSome && x b) =
          c.values.any fun b => (s.segment? b).isSome && y b := by
        rw [Bool.eq_iff_iff, List.any_eq_true, List.any_eq_true]
        refine exists_congr fun b => and_congr_right fun hb => ?_
        rw [hsame hasks.1 hnegate b hb]
      rwa [hnegate, hany] at h
    | false =>
      rw [hnegate, Bool.bne_false, List.any_eq_true] at h
      obtain ⟨b, hb, hin⟩ := h
      obtain ⟨hstored, hxb⟩ := Bool.and_eq_true_iff.mp hin
      rw [Bool.bne_false, List.any_eq_true]
      exact ⟨b, hb, Bool.and_eq_true_iff.mpr ⟨hstored, hkeep hasks.1 hnegate b hb hxb⟩⟩
  · rw [clauseValue, if_neg hasks] at h ⊢
    exact h

theorem clauseValue_congr (h : c.op = .segmentMatch → ∀ b ∈ c.values, x b = y b) :
    s.clauseValue t x c = s.clauseValue t y c := by
  refine Bool.eq_iff_iff.mpr ⟨?_, ?_⟩
  · exact clauseValue_of_keeps (fun hop _ b hb hxb => h hop b hb ▸ hxb) fun hop _ => h hop
  · exact clauseValue_of_keeps (fun hop _ b hb hyb => (h hop b hb).symm ▸ hyb)
      fun hop _ b hb => (h hop b hb).symm

/-! ## The search -/

theorem run_isMemberBy (contains : Segment → Id Bool) (ids : List String) :
    (isMemberBy s.host contains ids).run =
      ids.any fun id => (s.segment? id).any fun g => (contains g).run := by
  rw [isMemberBy, run_anyM]
  refine congrArg (List.any ids) (funext fun id => ?_)
  have hlook : s.host.segment? id = s.segment? id := rfl
  rw [hlook]
  cases s.segment? id <;> rfl

/-- **A clause comes to its value**, whatever search it is asked in. -/
theorem run_holdsWith (member : List String → Id Bool) (c : Clause) :
    (c.holdsWith member t).run =
      if c.op = .segmentMatch ∧ c.values ≠ [] then (member c.values).run != c.negate
      else (c.holds s.host s.budget t).run := by
  unfold Clause.holds Clause.holdsWith Clause.answer?
  cases c.values with
  | nil => rw [if_neg (by simp)]
  | cons first values =>
    by_cases hop : c.op = .segmentMatch
    · simp [hop]
      rfl
    · simp [hop]

/-- **One step of the search**: the segment includes the target, or else is not being asked about
and has a clause that holds. -/
theorem inside_succ_iff (levels : Nat) (visiting : List String) (hg : s.segment? id = some g) :
    s.inside t (levels + 1) visiting id = true ↔
      isListed g.excluded t = false ∧ (isListed g.included t = true ∨ id ∉ visiting ∧
        ∃ c ∈ g.rules, s.clauseValue t (s.inside t levels (id :: visiting)) c = true) := by
  obtain rfl := identifier_of_segment? hg
  have hstored : ∀ id, ((s.segment? id).isSome && s.inside t levels (g.identifier :: visiting) id) =
      s.inside t levels (g.identifier :: visiting) id := by
    intro id
    unfold inside
    cases s.segment? id <;> rfl
  have hrules : (g.rules.anyM fun c : Clause => c.holdsWith (isMemberBy s.host fun other =>
        other.containsWithin s.host t levels (g.identifier :: visiting)) t).run =
      g.rules.any (s.clauseValue t (s.inside t levels (g.identifier :: visiting))) := by
    rw [run_anyM]
    refine congrArg (List.any g.rules) (funext fun c => ?_)
    rw [run_holdsWith (s := s), run_isMemberBy, clauseValue]
    simp only [hstored]
    rfl
  rw [inside, hg, Option.any_some, Segment.containsWithin, ← List.any_eq_true, ← hrules]
  cases isListed g.excluded t with
  | true => simp
  | false =>
    cases isListed g.included t with
    | true => simp
    | false => by_cases hmem : g.identifier ∈ visiting <;> simp [hmem]

variable (s) in
/-- The segments that the search can still go down to. -/
def unasked (visiting : List String) : Finset String :=
  (s.segments.map (·.identifier)).toFinset.filter (· ∉ visiting)

theorem card_unasked_cons_lt {visiting : List String} (hg : s.segment? id = some g)
    (hid : id ∉ visiting) : (s.unasked (id :: visiting)).card < (s.unasked visiting).card := by
  obtain rfl := identifier_of_segment? hg
  have hmem : g ∈ s.segments := List.mem_of_find?_eq_some hg
  exact card_filter_notMem_cons_lt (List.mem_toFinset.mpr (List.mem_map_of_mem hmem)) hid

theorem card_unasked_le_of_subset {visiting visiting' : List String}
    (h : visiting ⊆ visiting') : (s.unasked visiting').card ≤ (s.unasked visiting).card := by
  refine Finset.card_le_card fun id hid => ?_
  obtain ⟨hin, hout⟩ := Finset.mem_filter.mp hid
  exact Finset.mem_filter.mpr ⟨hin, fun hmem => hout (h hmem)⟩

theorem card_unasked_lt_budget (visiting : List String) :
    (s.unasked visiting).card < s.budget.segments := by
  calc (s.unasked visiting).card
      ≤ (s.segments.map (·.identifier)).toFinset.card := Finset.card_filter_le _ _
    _ ≤ (s.segments.map (·.identifier)).length := List.toFinset_card_le _
    _ = s.segments.length := List.length_map _
    _ < s.segments.length + 1 := Nat.lt_succ_self _
    _ ≤ s.budget.segments := Nat.le_mul_self _

/-! ## What the answers on the way depend on -/

variable {n m : Nat} {v w : List String} {a b : String}

/-- **Only what it can come to**: the search is the same however deep it may go, as long as that is
deep enough, and whatever else is being asked about. -/
theorem inside_congr (hn : (s.unasked v).card < n) (hm : (s.unasked w).card < m)
    (hsame : ∀ b, ReflTransGen s.Asks id b → (b ∈ v ↔ b ∈ w)) :
    s.inside t n v id = s.inside t m w id := by
  induction n generalizing m v w id with
  | zero => omega
  | succ n ih =>
    obtain ⟨m, rfl⟩ : ∃ k, m = k + 1 := Nat.exists_eq_succ_of_ne_zero (by omega)
    cases hg : s.segment? id with
    | none => simp [inside, hg]
    | some g =>
      have hid : id ∈ v ↔ id ∈ w := hsame id .refl
      rw [Bool.eq_iff_iff, inside_succ_iff _ _ hg, inside_succ_iff _ _ hg, hid]
      refine and_congr_right fun _ => or_congr_right (and_congr_right fun hw => ?_)
      have hv : id ∉ v := hid.not.mpr hw
      have hdeeper := card_unasked_cons_lt hg hv
      have hdeeper' := card_unasked_cons_lt hg hw
      refine exists_congr fun c => and_congr_right fun hc => ?_
      have hvalue : s.clauseValue t (s.inside t n (id :: v)) c =
          s.clauseValue t (s.inside t m (id :: w)) c := by
        refine clauseValue_congr fun hop b hb => ih (by omega) (by omega) fun d hd => ?_
        have hreach : ReflTransGen s.Asks id d := .head (asks_of_mem hg hc hop hb) hd
        rw [List.mem_cons, List.mem_cons, hsame d hreach]
      rw [hvalue]

/-- What a negated clause asks about comes to nothing that leads to the clause. -/
theorem Stratified.inside_eq (h : s.Stratified) (hg : s.segment? id = some g) (hc : c ∈ g.rules)
    (hop : c.op = .segmentMatch) (hnegate : c.negate = true) (hb : b ∈ c.values)
    (hn : (s.unasked v).card < n) (hm : (s.unasked w).card < m)
    (hv : ∀ a ∈ v, ReflTransGen s.Asks a id) (hw : ∀ a ∈ w, ReflTransGen s.Asks a id) :
    s.inside t n v b = s.inside t m w b := by
  refine inside_congr hn hm fun d hd => iff_of_false ?_ ?_
  · exact fun hmem => h.not_reach hg hc hop hnegate hb (hv d hmem) hd
  · exact fun hmem => h.not_reach hg hc hop hnegate hb (hw d hmem) hd

/-- What leads to a segment leads to what it asks about, and so does the segment. -/
theorem reach_of_asks (hasks : s.Asks id b) (hv : ∀ a ∈ v, ReflTransGen s.Asks a id) :
    ∀ a ∈ id :: v, ReflTransGen s.Asks a b := by
  intro a ha
  rcases List.mem_cons.mp ha with rfl | ha
  · exact .single hasks
  · exact (hv a ha).tail hasks

/-- What leads to a segment, and the segment, lead to it. -/
theorem reach_cons (hv : ∀ a ∈ v, ReflTransGen s.Asks a id) :
    ∀ a ∈ id :: v, ReflTransGen s.Asks a id := by
  intro a ha
  rcases List.mem_cons.mp ha with rfl | ha
  · exact .refl
  · exact hv a ha

/-- **The fewer are being asked about, the more has the target in it.** -/
theorem inside_of_subset (h : s.Stratified) (hn : (s.unasked v).card < n)
    (hm : (s.unasked w).card < m) (hsub : v ⊆ w) (hw : ∀ a ∈ w, ReflTransGen s.Asks a id)
    (hin : s.inside t m w id = true) : s.inside t n v id = true := by
  induction n generalizing m v w id with
  | zero => omega
  | succ n ih =>
    obtain ⟨m, rfl⟩ : ∃ k, m = k + 1 := Nat.exists_eq_succ_of_ne_zero (by omega)
    cases hg : s.segment? id with
    | none => simp [inside, hg] at hin
    | some g =>
      rw [inside_succ_iff _ _ hg] at hin ⊢
      refine hin.imp_right fun hin => hin.imp_right ?_
      rintro ⟨hidw, c, hc, hvalue⟩
      have hidv : id ∉ v := fun hmem => hidw (hsub hmem)
      have hdeeper := card_unasked_cons_lt hg hidv
      have hdeeper' := card_unasked_cons_lt hg hidw
      refine ⟨hidv, c, hc, clauseValue_of_keeps ?_ ?_ hvalue⟩
      · intro hop _ b hb hinb
        have hasks : s.Asks id b := asks_of_mem hg hc hop hb
        exact ih (by omega) (by omega) (List.cons_subset_cons id hsub) (reach_of_asks hasks hw) hinb
      · intro hop hnegate b hb
        refine h.inside_eq hg hc hop hnegate hb (by omega) (by omega) (reach_cons hw) ?_
        exact reach_cons fun a ha => hw a (hsub ha)

/-- **A way through a segment starts over there**: what has the target in it does so without asking
about a segment that leads to it, or that segment has the target in it as well. -/
theorem inside_cut (h : s.Stratified) (hn : (s.unasked v).card < n)
    (hab : ReflTransGen s.Asks a b) (hv : ∀ d ∈ v, ReflTransGen s.Asks d b)
    (hin : s.inside t n v b = true) :
    s.inside t n (a :: v) b = true ∨ ReflTransGen s.Asks b a ∧ s.inside t n v a = true := by
  induction n generalizing v b with
  | zero => omega
  | succ n ih =>
    cases hg : s.segment? b with
    | none => simp [inside, hg] at hin
    | some g =>
      obtain ⟨hexcluded, hincluded | ⟨hb, c, hc, hvalue⟩⟩ := (inside_succ_iff _ _ hg).mp hin
      · exact .inl ((inside_succ_iff _ _ hg).mpr ⟨hexcluded, .inl hincluded⟩)
      have hdeeper := card_unasked_cons_lt hg hb
      by_cases hba : b = a
      · exact .inr ⟨hba ▸ .refl, hba ▸ hin⟩
      by_cases hthrough : ReflTransGen s.Asks b a ∧ s.inside t n (b :: v) a = true
      · -- below `b` the segment is come to and has the target in it, and so it has without `b`
        refine .inr ⟨hthrough.1, ?_⟩
        have hreach : ∀ d ∈ b :: v, ReflTransGen s.Asks d a :=
          fun d hd => (reach_cons hv d hd).trans hthrough.1
        exact inside_of_subset h hn (by omega) (List.subset_cons_self b v) hreach hthrough.2
      · -- nothing that `b` asks about needs the segment, and so `b` does not
        refine .inl ((inside_succ_iff _ _ hg).mpr ⟨hexcluded, .inr ⟨?_, c, hc, ?_⟩⟩)
        · exact List.not_mem_cons_of_ne_of_not_mem hba hb
        have hle : (s.unasked (b :: a :: v)).card ≤ (s.unasked (b :: v)).card :=
          card_unasked_le_of_subset (List.cons_subset_cons b (List.subset_cons_self a v))
        have hav : ∀ d ∈ a :: v, ReflTransGen s.Asks d b := by
          intro d hd
          rcases List.mem_cons.mp hd with rfl | hd
          · exact hab
          · exact hv d hd
        refine clauseValue_of_keeps ?_ ?_ hvalue
        · intro hop _ d hd hind
          have hasks : s.Asks b d := asks_of_mem hg hc hop hd
          rcases ih (by omega) (hab.tail hasks) (reach_of_asks hasks hv) hind with hind | ⟨hda, hina⟩
          · have hle' : (s.unasked (a :: b :: v)).card ≤ (s.unasked (b :: v)).card :=
              card_unasked_le_of_subset (List.subset_cons_self a _)
            rw [← hind]
            refine inside_congr (by omega) (by omega) fun e _ => ?_
            rw [List.mem_cons, List.mem_cons, List.mem_cons, List.mem_cons, or_left_comm]
          · exact absurd ⟨.head hasks hda, hina⟩ hthrough
        · intro hop hnegate d hd
          exact h.inside_eq hg hc hop hnegate hd (by omega) (by omega) (reach_cons hv)
            (reach_cons hav)

/-! ## The solution -/

theorem segmentValue_iff : s.segmentValue t x g = true ↔ isListed g.excluded t = false ∧
    (isListed g.included t = true ∨ ∃ c ∈ g.rules, s.clauseValue t x c = true) := by
  rw [segmentValue, ← List.any_eq_true]
  cases isListed g.excluded t with
  | true => simp
  | false => cases isListed g.included t <;> simp

/-- **The answers solve the equations.** -/
theorem Stratified.solves (h : s.Stratified) : s.Solves t (s.members t) := by
  intro id g hg
  have hlevels := card_unasked_lt_budget (s := s)
  obtain ⟨n, hn⟩ : ∃ k, s.budget.segments = k + 1 :=
    Nat.exists_eq_succ_of_ne_zero (Nat.ne_zero_of_lt (hlevels []))
  have hmembers : s.members t = s.inside t (n + 1) [] := by
    rw [← hn]
    rfl
  rw [hn] at hlevels
  have hdeeper := card_unasked_cons_lt hg List.not_mem_nil
  have hempty : ∀ a ∈ ([] : List String), ReflTransGen s.Asks a id :=
    fun a ha => absurd ha List.not_mem_nil
  have hn' : (s.unasked [id]).card < n := hdeeper.trans_le (Nat.le_of_lt_succ (hlevels []))
  -- of what a negated clause asks about nothing has to be said
  have hsame : ∀ c ∈ g.rules, c.op = .segmentMatch → c.negate = true → ∀ b ∈ c.values,
      s.inside t n [id] b = s.inside t (n + 1) [] b := fun c hc hop hnegate b hb =>
    h.inside_eq hg hc hop hnegate hb hn' (hlevels []) (reach_cons hempty) hempty
  rw [hmembers, Bool.eq_iff_iff, segmentValue_iff]
  constructor
  · intro hin
    obtain ⟨hexcluded, hincluded | ⟨-, c, hc, hvalue⟩⟩ := (inside_succ_iff _ _ hg).mp hin
    · exact ⟨hexcluded, .inl hincluded⟩
    · refine ⟨hexcluded, .inr ⟨c, hc, clauseValue_of_keeps ?_ (hsame c hc) hvalue⟩⟩
      intro hop _ b hb hinb
      have hasks : s.Asks id b := asks_of_mem hg hc hop hb
      exact inside_of_subset h (hlevels []) hn' (List.nil_subset _) (reach_of_asks hasks hempty) hinb
  · rintro ⟨hexcluded, hincluded | ⟨c, hc, hvalue⟩⟩
    · exact (inside_succ_iff _ _ hg).mpr ⟨hexcluded, .inl hincluded⟩
    by_contra hout
    refine hout ((inside_succ_iff _ _ hg).mpr ⟨hexcluded, .inr ⟨List.not_mem_nil, c, hc, ?_⟩⟩)
    refine clauseValue_of_keeps ?_ (fun hop hnegate b hb => (hsame c hc hop hnegate b hb).symm)
      hvalue
    intro hop _ b hb hinb
    -- the target is in `b` without `id`, for it is not in `id`
    have hasks : s.Asks id b := asks_of_mem hg hc hop hb
    have hnil : ∀ a ∈ ([] : List String), ReflTransGen s.Asks a b :=
      fun a ha => absurd ha List.not_mem_nil
    rcases inside_cut h (hlevels []) (.single hasks) hnil hinb with hinb | ⟨-, hin⟩
    · rw [← hinb]
      exact inside_congr hn' (hlevels [id]) fun _ _ => Iff.rfl
    · exact absurd hin hout

/-- What the search finds is in every solution, if no clause is negated. -/
theorem Solves.of_inside (hx : s.Solves t x) (hpositive : ∀ a b, ¬ s.AsksNot a b)
    (hin : s.inside t n v id = true) : x id = true := by
  induction n generalizing v id with
  | zero =>
    unfold inside at hin
    cases hg : s.segment? id <;> simp [hg, Segment.containsWithin] at hin
  | succ n ih =>
    cases hg : s.segment? id with
    | none => simp [inside, hg] at hin
    | some g =>
      obtain ⟨hexcluded, hin⟩ := (inside_succ_iff _ _ hg).mp hin
      rw [hx id g hg, segmentValue_iff]
      refine ⟨hexcluded, hin.imp_right ?_⟩
      rintro ⟨-, c, hc, hvalue⟩
      refine ⟨c, hc, clauseValue_of_keeps (fun _ _ b _ hinb => ih hinb) ?_ hvalue⟩
      exact fun hop hnegate b hb => absurd ⟨g, hg, c, hc, hop, hnegate, hb⟩ (hpositive id b)

/-- **A clause that is asked by itself** goes by the same answers as the segments. -/
theorem run_holds (s : Snapshot) (t : Target) (c : Clause) :
    (c.holds s.host s.budget t).run = s.clauseValue t (s.members t) c := by
  have hstored : ∀ id, ((s.segment? id).isSome && s.members t id) = s.members t id := by
    intro id
    unfold members
    cases s.segment? id <;> rfl
  have hmember : (isMember s.host s.budget t c.values).run = c.values.any (s.members t) :=
    run_isMemberBy _ _
  rw [Clause.holds, run_holdsWith (s := s), hmember, clauseValue]
  simp only [hstored]

/-- **Membership is the solution of the equations of the segments** where no circle goes through a
negated clause, whichever segment or clause is asked first, and the least solution where no clause
is negated. -/
theorem members_solve (s : Snapshot) (t : Target) (h : s.Stratified) :
    s.Solves t (s.members t) ∧
    (∀ c : Clause, (c.holds s.host s.budget t).run = s.clauseValue t (s.members t) c) ∧
    ((∀ a b, ¬ s.AsksNot a b) → ∀ x, s.Solves t x → ∀ id, s.members t id = true → x id = true) :=
  ⟨h.solves, run_holds s t, fun hpositive _ hx _ hin => hx.of_inside hpositive hin⟩

/-- A segment of whoever is in another, and of those of whom a clause says so. -/
def club (identifier : String) (negate : Bool) (asked : String) (named : List String) : Segment where
  identifier := identifier
  name := none
  included := []
  excluded := []
  rules := [⟨none, "", .segmentMatch, [asked], negate⟩,
    ⟨none, "identifier", .oneOf, named, false⟩]
  version := 1

/-- Two segments in a circle. -/
def circle : Snapshot := ⟨[], [club "staff" false "team" [], club "team" false "staff" ["ann"]]⟩

/-- The two, and one of whoever is not in them. -/
def lobby : Snapshot := ⟨[], club "guests" true "staff" [] :: circle.segments⟩

/-- A segment like that asks about one segment only. -/
theorem eq_of_mem_club {identifier asked : String} {negate : Bool} {named : List String}
    (hc : c ∈ (club identifier negate asked named).rules) (hop : c.op = .segmentMatch)
    (hb : b ∈ c.values) : b = asked ∧ c.negate = negate := by
  rcases List.mem_pair.mp hc with rfl | rfl
  · exact ⟨List.mem_singleton.mp hb, rfl⟩
  · cases hop

/-- The circle is left by no clause. -/
theorem mem_circle_of_reach (hb : ReflTransGen lobby.Asks "staff" b) : b = "staff" ∨ b = "team" := by
  induction hb with
  | refl => exact .inl rfl
  | tail _ hasks ih =>
    obtain ⟨g, hg, c, hc, hop, hmem⟩ := hasks
    rcases ih with rfl | rfl <;> cases hg
    · exact .inr (eq_of_mem_club hc hop hmem).1
    · exact .inl (eq_of_mem_club hc hop hmem).1

theorem stratified_lobby : lobby.Stratified := by
  rintro a b ⟨g, hg, c, hc, hop, hnegate, hb⟩ hreach
  have hmem : g ∈ lobby.segments := List.mem_of_find?_eq_some hg
  obtain rfl := identifier_of_segment? hg
  rcases List.mem_cons.mp hmem with rfl | hmem
  · obtain ⟨rfl, -⟩ := eq_of_mem_club hc hop hb
    rcases mem_circle_of_reach hreach with h | h <;> exact absurd h (by decide)
  · rcases List.mem_pair.mp hmem with rfl | rfl <;>
      cases (eq_of_mem_club hc hop hb).2.symm.trans hnegate

/-- The equations hold in the lobby, and the circle by itself has the least that its equations say. -/
theorem members_solve_lobby :
    lobby.Stratified ∧ lobby.Solves (.ofIdentifier "ann") (lobby.members (.ofIdentifier "ann")) ∧
    circle.Stratified ∧ ∀ x, circle.Solves (.ofIdentifier "bob") x →
      ∀ id, circle.members (.ofIdentifier "bob") id = true → x id = true := by
  have hpositive : ∀ a b, ¬ circle.AsksNot a b := by
    rintro a b ⟨g, hg, c, hc, hop, hnegate, hb⟩
    rcases List.mem_pair.mp (List.mem_of_find?_eq_some hg) with rfl | rfl <;>
      cases (eq_of_mem_club hc hop hb).2.symm.trans hnegate
  have hcircle : circle.Stratified := fun a b hnot => absurd hnot (hpositive a b)
  exact ⟨stratified_lobby, (members_solve lobby (.ofIdentifier "ann") stratified_lobby).1, hcircle,
    (members_solve circle (.ofIdentifier "bob") hcircle).2.2 hpositive⟩

end FlagReplica.Snapshot
