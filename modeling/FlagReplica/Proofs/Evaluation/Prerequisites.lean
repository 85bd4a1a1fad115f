import FlagReplica.Evaluation.Evaluate
import Mathlib.Data.Finset.Card
import Mathlib.Logic.Relation
/-!
# Prerequisites as a property of a graph

The search that decides whether the prerequisites of a flag are met goes down the graph of flags,
carries the flags above it along, stops at the first failure and gives up on a flag that it is
already below. None of this shows in its answer: `Dependable` says the answer of the graph alone,
by what can be reached and in no order, and `prerequisitesMetWithin_iff` is the proof that the
search finds it.

The induction is on the depth that is left, and what carries it is `DependableBelow`: the flag is
dependable and nothing it leads to stands above it. `dependableBelow_iff` is one step of the search,
said of the graph.
-/

namespace FlagReplica

open Relation

/-! ## What a flag serves by itself looks up no flag -/

section Frame

variable {m : Type → Type} [Monad m] (h : Host m) (look : String → m (Option Flag))
variable (budget : Budget) (watch : Watch m) (t : Target)

theorem Segment.containsWithin_flag? (levels : Nat) (visiting : List String) (s : Segment) :
    s.containsWithin { h with flag? := look } t levels visiting =
      s.containsWithin h t levels visiting := by
  induction levels generalizing visiting s with
  | zero => rfl
  | succ levels ih =>
    simp only [Segment.containsWithin, ih]
    rfl

theorem isMember_flag? (ids : List String) :
    isMember { h with flag? := look } budget t ids = isMember h budget t ids := by
  simp only [isMember, Segment.contains, Segment.containsWithin_flag?]
  rfl

theorem Clause.holds_flag? (c : Clause) :
    c.holds { h with flag? := look } budget t = c.holds h budget t := by
  simp only [Clause.holds, funext (isMember_flag? h look budget t)]

theorem Flag.findMapped_flag? (entries : List VariationMap) :
    Flag.findMapped { h with flag? := look } budget t entries =
      Flag.findMapped h budget t entries := by
  induction entries with
  | nil => rfl
  | cons entry entries ih => simp only [Flag.findMapped, isMember_flag?, ih]

theorem Flag.findMatching_flag? (rules : List ServingRule) :
    Flag.findMatching { h with flag? := look } budget t rules =
      Flag.findMatching h budget t rules := by
  induction rules with
  | nil => rfl
  | cons rule rules ih => simp only [Flag.findMatching, Clause.holds_flag?, ih]

/-- **A flag by itself looks up no flag**, only the segments it names. -/
theorem Flag.serveByState_flag? (f : Flag) :
    f.serveByState { h with flag? := look } budget watch t = f.serveByState h budget watch t := by
  have hdefault : f.serveDefault { h with flag? := look } watch t = f.serveDefault h watch t := rfl
  have hserve (serve : Serve) : serve.resolve { h with flag? := look } watch t =
      serve.resolve h watch t := rfl
  have hrules : f.serveByRules { h with flag? := look } budget watch t =
      f.serveByRules h budget watch t := by
    simp only [Flag.serveByRules, Flag.findMatching_flag?, hdefault, hserve]
  simp only [Flag.serveByState, Flag.serveOn, Flag.findMapped_flag?, hdefault, hrules]

end Frame

namespace Snapshot

variable (s : Snapshot) (budget : Budget) (t : Target)

/-! ## The graph -/

/-- The flag found under the first identifier names the second as a prerequisite. -/
def Requires (a b : String) : Prop :=
  ∃ f, s.flag? a = some f ∧ ∃ p ∈ f.prerequisites, p.feature = b

/-- The flag that a prerequisite names by itself serves one of the variations accepted. -/
def Fulfils (p : Prerequisite) : Prop :=
  ∃ g, s.flag? p.feature = some g ∧
    ∃ v, (g.serveByState s.host budget Watch.none t).run = some v ∧ v ≠ "" ∧ v ∈ p.variations

/-- **What the prerequisites of a flag ask of the graph**: whatever they lead to is there, nothing
they lead to leads back to itself, and every prerequisite on the way is fulfilled. -/
structure Dependable (id : String) : Prop where
  stored : ∀ b, TransGen s.Requires id b → (s.flag? b).isSome
  acyclic : ∀ b, ReflTransGen s.Requires id b → ¬ TransGen s.Requires b b
  fulfilled : ∀ a f, ReflTransGen s.Requires id a → s.flag? a = some f →
    ∀ p ∈ f.prerequisites, s.Fulfils budget t p

/-- A flag that is dependable and leads to none of those above it. -/
structure DependableBelow (path : List String) (id : String) : Prop
    extends s.Dependable budget t id where
  clear : ∀ b, TransGen s.Requires id b → b ∉ path

variable {s budget t}

/-- A flag is found under its own identifier. -/
theorem feature_of_flag? {id : String} {f : Flag} (h : s.flag? id = some f) : f.feature = id := by
  simpa using List.find?_some h

theorem requires_of_mem {f : Flag} {p : Prerequisite} (hf : s.flag? f.feature = some f)
    (hp : p ∈ f.prerequisites) : s.Requires f.feature p.feature :=
  ⟨f, hf, p, hp, rfl⟩

/-- Every edge out of a flag is one of its prerequisites. -/
theorem mem_of_requires {f : Flag} {b : String} (hf : s.flag? f.feature = some f)
    (h : s.Requires f.feature b) : ∃ p ∈ f.prerequisites, p.feature = b := by
  obtain ⟨g, hg, p, hp, hpb⟩ := h
  rw [hf, Option.some.injEq] at hg
  exact ⟨p, hg ▸ hp, hpb⟩

/-- **One step down the graph.** A flag is dependable below a path if each of its prerequisites is
fulfilled, is not on the path, and is dependable below the path with the flag on it. -/
theorem dependableBelow_iff {path : List String} {f : Flag} (hf : s.flag? f.feature = some f) :
    s.DependableBelow budget t path f.feature ↔
      ∀ p ∈ f.prerequisites, p.feature ∉ f.feature :: path ∧ s.Fulfils budget t p ∧
        s.DependableBelow budget t (f.feature :: path) p.feature := by
  constructor
  · intro h p hp
    have hedge : s.Requires f.feature p.feature := requires_of_mem hf hp
    -- a flag that a prerequisite leads to is neither on the path nor the flag itself
    have hclear : ∀ b, ReflTransGen s.Requires p.feature b → b ∉ f.feature :: path := by
      intro b hb hmem
      have hreach : TransGen s.Requires f.feature b := TransGen.head' hedge hb
      rcases List.mem_cons.mp hmem with rfl | hpath
      · exact h.acyclic _ ReflTransGen.refl hreach
      · exact h.clear b hreach hpath
    refine ⟨hclear _ ReflTransGen.refl, h.fulfilled _ f ReflTransGen.refl hf p hp, ?_⟩
    refine ⟨⟨?_, ?_, ?_⟩, ?_⟩
    · exact fun b hb => h.stored b (TransGen.head hedge hb)
    · exact fun b hb => h.acyclic b (ReflTransGen.head hedge hb)
    · exact fun a g ha => h.fulfilled a g (ReflTransGen.head hedge ha)
    · exact fun b hb => hclear b hb.to_reflTransGen
  · intro h
    -- the step from which a walk out of the flag starts
    have hfirst : ∀ b, TransGen s.Requires f.feature b → ∃ p ∈ f.prerequisites,
        b = p.feature ∨ TransGen s.Requires p.feature b := by
      intro b hb
      obtain ⟨c, hc, hcb⟩ := TransGen.head'_iff.mp hb
      obtain ⟨p, hp, rfl⟩ := mem_of_requires hf hc
      exact ⟨p, hp, (reflTransGen_iff_eq_or_transGen.mp hcb)⟩
    have hclear : ∀ b, TransGen s.Requires f.feature b → b ∉ f.feature :: path := by
      intro b hb
      obtain ⟨p, hp, rfl | hpb⟩ := hfirst b hb
      · exact (h p hp).1
      · exact (h p hp).2.2.clear b hpb
    refine ⟨⟨?_, ?_, ?_⟩, fun b hb hmem => hclear b hb (List.mem_cons_of_mem _ hmem)⟩
    · intro b hb
      obtain ⟨p, hp, rfl | hpb⟩ := hfirst b hb
      · obtain ⟨g, hg, -⟩ := (h p hp).2.1
        rw [hg]
        rfl
      · exact (h p hp).2.2.stored b hpb
    · intro b hb hcycle
      rcases reflTransGen_iff_eq_or_transGen.mp hb with rfl | hreach
      · exact hclear _ hcycle List.mem_cons_self
      · obtain ⟨p, hp, rfl | hpb⟩ := hfirst b hreach
        · exact (h p hp).2.2.acyclic _ ReflTransGen.refl hcycle
        · exact (h p hp).2.2.acyclic b hpb.to_reflTransGen hcycle
    · intro a g ha hg p hp
      rcases reflTransGen_iff_eq_or_transGen.mp ha with rfl | hreach
      · rw [hf, Option.some.injEq] at hg
        exact (h p (hg ▸ hp)).2.1
      · obtain ⟨q, hq, rfl | hqa⟩ := hfirst a hreach
        · exact (h q hq).2.2.fulfilled _ g ReflTransGen.refl hg p hp
        · exact (h q hq).2.2.fulfilled a g hqa.to_reflTransGen hg p hp

/-! ## The search -/

theorem accepts_eq_true_iff (p : Prerequisite) (served : Option String) :
    Flag.accepts p served = true ↔ ∃ v, served = some v ∧ v ≠ "" ∧ v ∈ p.variations := by
  cases served with
  | none => simp [Flag.accepts]
  | some v => simp [Flag.accepts]

theorem run_allM {α : Type} (p : α → Id Bool) (l : List α) :
    (l.allM p).run = l.all fun x => (p x).run :=
  List.allM_pure (m := Id) (p := fun x => (p x).run)

theorem run_anyM {α : Type} (p : α → Id Bool) (l : List α) :
    (l.anyM p).run = l.any fun x => (p x).run :=
  List.anyM_pure (m := Id) (p := fun x => (p x).run)

variable (s budget t) in
/-- **The equation the search satisfies** on a snapshot. -/
theorem prerequisitesMetWithin_succ (levels : Nat) (path : List String) (f : Flag) :
    (f.prerequisitesMetWithin s.host budget t (levels + 1) path).run =
      f.prerequisites.all fun p =>
        decide (p.feature ∉ f.feature :: path) && (s.flag? p.feature).any fun g =>
          (g.prerequisites.isEmpty ||
              (g.prerequisitesMetWithin s.host budget t levels (f.feature :: path)).run) &&
            Flag.accepts p (g.serveByState s.host budget Watch.none t).run := by
  rw [Flag.prerequisitesMetWithin, run_allM]
  refine congrArg (List.all _) (funext fun p => ?_)
  by_cases hmem : p.feature ∈ f.feature :: path
  · simp only [hmem]
    rfl
  · simp only [hmem]
    have hlook : s.host.flag? p.feature = s.flag? p.feature := rfl
    rw [hlook]
    cases s.flag? p.feature with
    | none => rfl
    | some g =>
      change (if g.prerequisites.isEmpty then
          Flag.accepts p (g.serveByState s.host budget Watch.none t).run
        else if (g.prerequisitesMetWithin s.host budget t levels (f.feature :: path)).run then
          Flag.accepts p (g.serveByState s.host budget Watch.none t).run
        else false) = _
      rw [Option.any_some]
      cases g.prerequisites.isEmpty <;> simp

/-- Of a flag without prerequisites nothing is asked. -/
theorem dependableBelow_of_isEmpty {path : List String} {f : Flag}
    (hf : s.flag? f.feature = some f) (h : f.prerequisites.isEmpty) :
    s.DependableBelow budget t path f.feature := by
  rw [dependableBelow_iff hf, List.isEmpty_iff.mp h]
  exact fun p hp => absurd hp List.not_mem_nil

variable (s) in
/-- The identifiers that the search can still go down to. -/
def unvisited (path : List String) : Finset String :=
  (s.flags.map (·.feature)).toFinset.filter (· ∉ path)

/-- There is less to visit once more is on the path. -/
theorem card_filter_notMem_cons_lt {names : Finset String} {path : List String} {id : String}
    (hin : id ∈ names) (hpath : id ∉ path) :
    (names.filter (· ∉ id :: path)).card < (names.filter (· ∉ path)).card := by
  refine Finset.card_lt_card ⟨?_, fun hsub => ?_⟩
  · intro b hb
    simp only [Finset.mem_filter, List.mem_cons, not_or] at hb ⊢
    exact ⟨hb.1, hb.2.2⟩
  · have hout := hsub (Finset.mem_filter.mpr ⟨hin, hpath⟩)
    simp at hout

theorem card_unvisited_cons_lt {path : List String} {f : Flag}
    (hf : s.flag? f.feature = some f) (hpath : f.feature ∉ path) :
    (s.unvisited (f.feature :: path)).card < (s.unvisited path).card := by
  have hmem : f ∈ s.flags := List.mem_of_find?_eq_some hf
  exact card_filter_notMem_cons_lt (List.mem_toFinset.mpr (List.mem_map_of_mem hmem)) hpath

/-- **The search finds what the graph asks**, if it may go as deep as there are flags that are not
above it. -/
theorem prerequisitesMetWithin_iff {levels : Nat} {path : List String} {f : Flag}
    (hf : s.flag? f.feature = some f) (hpath : f.feature ∉ path)
    (hlevels : (s.unvisited path).card ≤ levels) :
    (f.prerequisitesMetWithin s.host budget t levels path).run = true ↔
      s.DependableBelow budget t path f.feature := by
  induction levels generalizing path f with
  | zero =>
    -- the flag itself is still to be visited, so there is a level left for it
    have := card_unvisited_cons_lt hf hpath
    omega
  | succ levels ih =>
    have hdeeper := card_unvisited_cons_lt hf hpath
    rw [prerequisitesMetWithin_succ, List.all_eq_true, dependableBelow_iff hf]
    refine forall₂_congr fun p _ => ?_
    rw [Bool.and_eq_true, decide_eq_true_iff]
    refine and_congr_right fun hmem => ?_
    cases hg : s.flag? p.feature with
    | none => simp [Fulfils, hg]
    | some g =>
      have hgf : g.feature = p.feature := feature_of_flag? hg
      have hg' : s.flag? g.feature = some g := hgf ▸ hg
      -- a flag without prerequisites is not searched, and nothing is asked of the graph below it
      have hbelow : (g.prerequisites.isEmpty ||
          (g.prerequisitesMetWithin s.host budget t levels (f.feature :: path)).run) = true ↔
          s.DependableBelow budget t (f.feature :: path) p.feature := by
        rw [← hgf, Bool.or_eq_true, ih hg' (hgf ▸ hmem) (by omega)]
        exact or_iff_right_of_imp (dependableBelow_of_isEmpty hg')
      have hfulfils : Flag.accepts p (g.serveByState s.host budget Watch.none t).run = true ↔
          s.Fulfils budget t p := by
        rw [accepts_eq_true_iff]
        simp [Fulfils, hg]
      rw [Option.any_some, Bool.and_eq_true, hbelow, hfulfils, and_comm]

theorem card_unvisited_le (path : List String) : (s.unvisited path).card ≤ s.flags.length := by
  calc (s.unvisited path).card
      ≤ (s.flags.map (·.feature)).toFinset.card := Finset.card_filter_le _ _
    _ ≤ (s.flags.map (·.feature)).length := List.toFinset_card_le _
    _ = s.flags.length := List.length_map _

/-- **The prerequisites of a flag are met if the graph has what they ask of it.** -/
theorem prerequisitesMet_iff_dependable {f : Flag} (hf : s.flag? f.feature = some f)
    (hbudget : s.flags.length ≤ budget.flags) :
    (f.prerequisitesMet s.host budget t).run = true ↔ s.Dependable budget t f.feature := by
  have hlevels := (card_unvisited_le (s := s) []).trans hbudget
  rw [Flag.prerequisitesMet, prerequisitesMetWithin_iff hf List.not_mem_nil hlevels]
  exact ⟨fun h => h.toDependable, fun h => ⟨h, fun _ _ => List.not_mem_nil⟩⟩

variable (s) in
/-- The snapshot allows itself enough. -/
theorem length_le_budget : s.flags.length ≤ s.budget.flags := by
  exact (Nat.le_succ _).trans (Nat.le_mul_self _)

/-! ## The order of prerequisites -/

/-- The snapshot with the prerequisites of each flag in another order. -/
def reorder (order : Flag → List Prerequisite) (s : Snapshot) : Snapshot :=
  { s with flags := s.flags.map fun f => { f with prerequisites := order f } }

variable (order : Flag → List Prerequisite)

@[simp] theorem flag?_reorder (id : String) : (s.reorder order).flag? id =
    (s.flag? id).map fun f => { f with prerequisites := order f } := by
  simp only [Snapshot.flag?, reorder, List.find?_map]
  rfl

theorem length_flags_reorder : (s.reorder order).flags.length = s.flags.length :=
  List.length_map _

variable {order} (horder : ∀ f, (order f).Perm f.prerequisites)

include horder in
theorem requires_reorder : (s.reorder order).Requires = s.Requires := by
  funext a b
  refine propext ⟨?_, ?_⟩
  · rintro ⟨f, hf, p, hp, hpb⟩
    obtain ⟨g, hg, rfl⟩ := Option.map_eq_some_iff.mp ((flag?_reorder order a).symm.trans hf)
    exact ⟨g, hg, p, (horder g).mem_iff.mp hp, hpb⟩
  · rintro ⟨f, hf, p, hp, hpb⟩
    exact ⟨_, by rw [flag?_reorder, hf]; rfl, p, (horder f).mem_iff.mpr hp, hpb⟩

theorem fulfils_reorder (p : Prerequisite) :
    (s.reorder order).Fulfils budget t p ↔ s.Fulfils budget t p := by
  -- neither the look-up of segments nor what a flag serves by itself sees the order
  have hserve (g : Flag) : Flag.serveByState (s.reorder order).host budget Watch.none t
      { g with prerequisites := order g } = g.serveByState s.host budget Watch.none t :=
    Flag.serveByState_flag? s.host (s.reorder order).host.flag? budget Watch.none t
      { g with prerequisites := order g }
  constructor
  · rintro ⟨f, hf, v, hv⟩
    obtain ⟨g, hg, rfl⟩ := Option.map_eq_some_iff.mp ((flag?_reorder order _).symm.trans hf)
    exact ⟨g, hg, v, hserve g ▸ hv⟩
  · rintro ⟨g, hg, v, hv⟩
    exact ⟨_, by rw [flag?_reorder, hg]; rfl, v, (hserve g).symm ▸ hv⟩

include horder in
/-- **What is asked of the graph does not depend on any order.** -/
theorem dependable_reorder (id : String) :
    (s.reorder order).Dependable budget t id ↔ s.Dependable budget t id := by
  have hfulfilled : (∀ a f, ReflTransGen s.Requires id a → (s.reorder order).flag? a = some f →
      ∀ p ∈ f.prerequisites, (s.reorder order).Fulfils budget t p) ↔
      ∀ a f, ReflTransGen s.Requires id a → s.flag? a = some f →
        ∀ p ∈ f.prerequisites, s.Fulfils budget t p := by
    refine forall_congr' fun a => ?_
    simp only [flag?_reorder, fulfils_reorder]
    cases s.flag? a with
    | none => simp
    | some g => simp [(horder g).mem_iff]
  constructor
  · rintro ⟨hstored, hacyclic, hf⟩
    rw [requires_reorder horder] at hstored hacyclic hf
    exact ⟨by simpa using hstored, hacyclic, hfulfilled.mp hf⟩
  · rintro ⟨hstored, hacyclic, hf⟩
    refine ⟨?_, ?_, ?_⟩ <;> rw [requires_reorder horder]
    · simpa using hstored
    · exact hacyclic
    · exact hfulfilled.mpr hf

/-! ## The property of the graph -/

/-- **Whether prerequisites are met is a property of the graph**, which no order enters: all that a
flag's prerequisites lead to is there, none of it leads back to itself, and each prerequisite met on
the way is fulfilled. -/
theorem prerequisitesMet_iff (s : Snapshot) (t : Target) (f : Flag)
    (hf : s.flag? f.feature = some f) :
    ((f.prerequisitesMet s.host s.budget t).run = true ↔
      (∀ b, TransGen s.Requires f.feature b → (s.flag? b).isSome) ∧
      (∀ b, ReflTransGen s.Requires f.feature b → ¬ TransGen s.Requires b b) ∧
      (∀ a g, ReflTransGen s.Requires f.feature a → s.flag? a = some g →
        ∀ p ∈ g.prerequisites, s.Fulfils s.budget t p)) ∧
    ∀ order : Flag → List Prerequisite, (∀ g, (order g).Perm g.prerequisites) →
      Flag.prerequisitesMet (s.reorder order).host (s.reorder order).budget t
        { f with prerequisites := order f } = f.prerequisitesMet s.host s.budget t := by
  have hgraph := prerequisitesMet_iff_dependable (t := t) hf s.length_le_budget
  refine ⟨?_, fun order horder => ?_⟩
  · rw [hgraph]
    exact ⟨fun h => ⟨h.stored, h.acyclic, h.fulfilled⟩, fun h => ⟨h.1, h.2.1, h.2.2⟩⟩
  · have hbudget : (s.reorder order).budget = s.budget := by
      rw [Snapshot.budget, Snapshot.budget, length_flags_reorder]
      rfl
    have hf' : (s.reorder order).flag? f.feature =
        some { f with prerequisites := order f } := by
      rw [flag?_reorder, hf]
      rfl
    have hreordered := prerequisitesMet_iff_dependable (t := t)
      (f := { f with prerequisites := order f }) hf' (s.reorder order).length_le_budget
    rw [hbudget, dependable_reorder horder] at hreordered
    rw [hbudget]
    exact Bool.eq_iff_iff.mpr (hreordered.trans hgraph.symm)

/-- A flag that is on, serves one variation to all, and accepts that one of the flags it names. -/
def plainFlag (feature : String) (requires : List String) : Flag where
  feature := feature
  kind := .boolean
  state := .on
  offVariation := "no"
  defaultServe := .variation "yes"
  rules := []
  variationToTargetMap := []
  prerequisites := requires.map fun id => ⟨id, ["yes"]⟩
  variations := [⟨"yes", none, none, "true"⟩, ⟨"no", none, none, "false"⟩]
  version := 1

/-- A flag that requires two others. -/
def checkout : Flag := plainFlag "checkout" ["cart", "prices"]

/-- Four flags in a diamond, beside two that require each other. -/
def diamond : Snapshot where
  flags := [checkout, plainFlag "cart" ["base"], plainFlag "prices" ["base"], plainFlag "base" [],
    plainFlag "left" ["right"], plainFlag "right" ["left"]]
  segments := []

/-- The flag at the top of the diamond leads to no circle, for its prerequisites are met. -/
theorem prerequisitesMet_diamond :
    diamond.flag? checkout.feature = some checkout ∧
    (checkout.prerequisitesMet diamond.host diamond.budget (.ofIdentifier "t")).run = true ∧
    ∀ b, ReflTransGen diamond.Requires checkout.feature b → ¬ TransGen diamond.Requires b b := by
  have hmet : (checkout.prerequisitesMet diamond.host diamond.budget
      (.ofIdentifier "t")).run = true := by decide +kernel
  have hstored : diamond.flag? checkout.feature = some checkout := by decide
  have h := prerequisitesMet_iff diamond (.ofIdentifier "t") checkout hstored
  exact ⟨hstored, hmet, (h.1.mp hmet).2.1⟩

end Snapshot

end FlagReplica
