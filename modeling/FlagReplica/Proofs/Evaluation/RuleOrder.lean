import FlagReplica.Evaluation.Serve
import Mathlib.Data.List.Sort
/-!
# The order of rules

The rules of a flag are sorted by priority and searched for the first that has a property. What is
found is said here without sorting: it is the rule that has the property and comes least in priority
and then in position. `find?_rulesInOrder_iff` is the proof, read off the sort of the rules numbered
by position, that a stable sort and a search find just that.

The order in which rules are listed matters for rules of one priority only: `rulesInOrder_congr`.
-/

namespace FlagReplica

namespace Flag

/-- The rule has a property, and none that has it comes before in priority, nor in position where
priorities are the same. -/
def Leads (p : ServingRule → Prop) (rules : List ServingRule) (rule : ServingRule) : Prop :=
  ∃ i : Nat, rules[i]? = some rule ∧ p rule ∧ ∀ (j : Nat) (other : ServingRule),
    rules[j]? = some other → p other →
      rule.priority < other.priority ∨ rule.priority = other.priority ∧ i ≤ j

/-- Whether a rule comes no later than another by priority. -/
def noLater (a b : ServingRule) : Bool := a.priority ≤ b.priority

theorem noLater_trans (a b c : ServingRule) (hab : noLater a b) (hbc : noLater b c) :
    noLater a c := by
  simp only [noLater, decide_eq_true_eq] at hab hbc ⊢
  exact Int32.le_trans hab hbc

theorem noLater_total (a b : ServingRule) : noLater a b || noLater b a := by
  simp only [noLater, Bool.or_eq_true, decide_eq_true_eq]
  exact Int32.le_total _ _

variable {f : Flag} {p : ServingRule → Bool} {rule : ServingRule}

theorem rulesInOrder_eq (f : Flag) : f.rulesInOrder = f.rules.mergeSort noLater := rfl

theorem pairwise_rulesInOrder (f : Flag) :
    f.rulesInOrder.Pairwise fun a b => noLater a b = true :=
  List.pairwise_mergeSort noLater_trans noLater_total _

theorem mem_rulesInOrder : rule ∈ f.rulesInOrder ↔ rule ∈ f.rules :=
  (List.mergeSort_perm f.rules noLater).mem_iff

/-- Numbered rules in order are in order by their pairs of priority and number. -/
theorem lt_or_eq_of_zipIdxLE {a b : ServingRule × Nat} (h : List.zipIdxLE noLater a b) :
    a.1.priority < b.1.priority ∨ a.1.priority = b.1.priority ∧ a.2 ≤ b.2 := by
  simp only [List.zipIdxLE, noLater] at h
  by_cases hab : a.1.priority ≤ b.1.priority
  · by_cases hba : b.1.priority ≤ a.1.priority
    · refine .inr ⟨Int32.le_antisymm hab hba, ?_⟩
      simpa [hab, hba] using h
    · exact .inl (Int32.not_le.mp hba)
  · simp [hab] at h

/-- **The first match in order leads.** -/
theorem leads_of_find? (h : f.rulesInOrder.find? p = some rule) :
    Leads (fun r => p r = true) f.rules rule := by
  obtain ⟨hrule, before, after, hsplit, hbefore⟩ := List.find?_eq_some_iff_append.mp h
  rw [rulesInOrder_eq, ← List.mergeSort_zipIdx] at hsplit
  obtain ⟨before', rest, hnumbered, rfl, hrest⟩ := List.map_eq_append_iff.mp hsplit
  obtain ⟨⟨rule', i⟩, after', rfl, rfl, rfl⟩ := List.map_eq_cons_iff.mp hrest
  have hperm := List.mergeSort_perm f.rules.zipIdx (List.zipIdxLE noLater)
  have hsorted := List.pairwise_mergeSort (List.zipIdxLE_trans noLater_trans)
    (List.zipIdxLE_total noLater_total) f.rules.zipIdx
  rw [hnumbered] at hperm hsorted
  -- a numbered rule is in the numbered sort exactly if it stands in the list at that number
  have hmem : ∀ r j, (r, j) ∈ before' ++ (rule', i) :: after' ↔ f.rules[j]? = some r := by
    intro r j
    rw [hperm.mem_iff]
    exact List.mem_zipIdx_iff_getElem?
  refine ⟨i, (hmem rule' i).mp (by simp), hrule, fun j other hj hother => ?_⟩
  have hin := (hmem other j).mpr hj
  rw [List.mem_append, List.mem_cons] at hin
  rcases hin with hin | hin | hin
  · have hnot := hbefore other (List.mem_map_of_mem hin)
    simp [hother] at hnot
  · cases hin
    exact .inr ⟨rfl, le_refl _⟩
  · have hafter := (List.pairwise_append.mp hsorted).2.1
    exact lt_or_eq_of_zipIdxLE (List.rel_of_pairwise_cons hafter hin)

/-- At most one rule leads. -/
theorem Leads.unique {q : ServingRule → Prop} {rules : List ServingRule} {a b : ServingRule}
    (ha : Leads q rules a) (hb : Leads q rules b) : a = b := by
  obtain ⟨i, hi, hqa, hleast⟩ := ha
  obtain ⟨j, hj, hqb, hleast'⟩ := hb
  have hij : i = j := by
    rcases hleast j b hj hqb with hlt | ⟨heq, hle⟩ <;>
      rcases hleast' i a hi hqa with hlt' | ⟨heq', hle'⟩
    · exact absurd (Int32.lt_trans hlt hlt') Int32.lt_irrefl
    · exact absurd (heq' ▸ hlt) Int32.lt_irrefl
    · exact absurd (heq ▸ hlt') Int32.lt_irrefl
    · exact le_antisymm hle hle'
  rw [hij, hj, Option.some.injEq] at hi
  exact hi.symm

theorem Leads.congr {q q' : ServingRule → Prop} (h : ∀ r, q r ↔ q' r) {rules : List ServingRule} :
    Leads q rules rule ↔ Leads q' rules rule := by
  rw [funext fun r => propext (h r)]

/-- **A stable sort and a search find the rule that leads.** -/
theorem find?_rulesInOrder_iff :
    f.rulesInOrder.find? p = some rule ↔ Leads (fun r => p r = true) f.rules rule := by
  constructor
  · exact leads_of_find?
  · intro h
    obtain ⟨i, hi, hrule, -⟩ := id h
    have hmem : rule ∈ f.rulesInOrder := mem_rulesInOrder.mpr (List.mem_of_getElem? hi)
    obtain ⟨found, hfound⟩ := Option.isSome_iff_exists.mp
      (List.find?_isSome.mpr ⟨rule, hmem, hrule⟩)
    rw [hfound, h.unique (leads_of_find? hfound)]

/-- The rules of one priority stay in their order. -/
theorem filter_rulesInOrder (f : Flag) (n : Int32) :
    f.rulesInOrder.filter (·.priority = n) = f.rules.filter (·.priority = n) := by
  have hsame : (f.rules.filter (·.priority = n)).Pairwise fun a b => noLater a b = true := by
    refine List.pairwise_of_forall_mem_list fun a ha b hb => ?_
    simp only [List.mem_filter, decide_eq_true_eq] at ha hb
    simp only [noLater, ha.2, hb.2, decide_eq_true_eq]
    exact Int32.le_refl n
  have hsub := (List.sublist_mergeSort noLater_trans noLater_total hsame
    List.filter_sublist).filter (·.priority = n)
  simp only [List.filter_filter, Bool.and_self] at hsub
  refine (hsub.eq_of_length ?_).symm
  exact ((List.mergeSort_perm f.rules noLater).filter _).length_eq.symm

theorem mem_iff_of_filter_priority {xs ys : List ServingRule}
    (h : ∀ n, xs.filter (·.priority = n) = ys.filter (·.priority = n)) (r : ServingRule) :
    r ∈ xs ↔ r ∈ ys := by
  have hr := congrArg (r ∈ ·) (h r.priority)
  simpa using hr

/-- Lists in order with the same rules of each priority, in the same order, are the same. -/
theorem eq_of_filter_priority {xs ys : List ServingRule}
    (hx : xs.Pairwise fun a b => noLater a b = true)
    (hy : ys.Pairwise fun a b => noLater a b = true)
    (h : ∀ n, xs.filter (·.priority = n) = ys.filter (·.priority = n)) : xs = ys := by
  have hmem := mem_iff_of_filter_priority h
  induction xs generalizing ys with
  | nil => exact (List.eq_nil_iff_forall_not_mem.mpr fun r hr => by simpa using (hmem r).mpr hr).symm
  | cons a xs ih =>
    cases ys with
    | nil => simpa using (hmem a).mp List.mem_cons_self
    | cons b ys =>
      have hab : noLater a b = true := by
        rcases List.mem_cons.mp ((hmem b).mpr List.mem_cons_self) with rfl | hb
        · exact decide_eq_true (Int32.le_refl _)
        · exact List.rel_of_pairwise_cons hx hb
      have hba : noLater b a = true := by
        rcases List.mem_cons.mp ((hmem a).mp List.mem_cons_self) with rfl | ha
        · exact decide_eq_true (Int32.le_refl _)
        · exact List.rel_of_pairwise_cons hy ha
      have hpriority : b.priority = a.priority :=
        Int32.le_antisymm (of_decide_eq_true hba) (of_decide_eq_true hab)
      -- the first rule of the least priority is the first rule of either list
      have hhead := h a.priority
      simp only [List.filter_cons, hpriority, decide_true, if_true, List.cons.injEq] at hhead
      obtain ⟨rfl, -⟩ := hhead
      have htail : ∀ n, xs.filter (·.priority = n) = ys.filter (·.priority = n) := by
        intro n
        have hn := h n
        by_cases ha : a.priority = n <;> simpa [ha] using hn
      rw [ih hx.of_cons hy.of_cons htail (mem_iff_of_filter_priority htail)]

/-- **Only the order of rules of one priority matters.** -/
theorem rulesInOrder_congr {f g : Flag}
    (h : ∀ n, g.rules.filter (·.priority = n) = f.rules.filter (·.priority = n)) :
    g.rulesInOrder = f.rulesInOrder := by
  refine eq_of_filter_priority (pairwise_rulesInOrder g) (pairwise_rulesInOrder f) fun n => ?_
  rw [filter_rulesInOrder, filter_rulesInOrder, h n]

end Flag

end FlagReplica
