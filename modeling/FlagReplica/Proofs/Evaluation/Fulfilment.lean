import FlagReplica.Proofs.Evaluation.Precedence
/-!
# What a prerequisite that is met serves

Whether a prerequisite is met is found out on the way, by a search that has flags above it and looks
at a bare identifier of a variation. A flag that is evaluated on its own starts a search of its own
and has to find the variation. The two agree on the identifier: where prerequisites are met, each of
the flags named has its own met (`Dependable.of_requires`), so it resolves to what it serves by
itself, and that is accepted (`evaluate_of_prerequisitesMet`).

They do not agree on whether there is such a variation. A prerequisite may serve an identifier that
it has no variation of. It is met all the same if that identifier is accepted, and evaluated on its
own it fails (`prerequisitesMet_phantom`). Of what serves only variations that it has, everything
that is met is served.
-/

namespace FlagReplica.Snapshot

open Relation

variable {s : Snapshot} {t : Target} {budget : Budget} {f g : Flag} {p : Prerequisite}

/-! ## What is served -/

/-- **What a dependable flag requires is dependable**, for all that it leads to the flag leads to as
well. -/
theorem Dependable.of_requires {a b : String} (h : s.Dependable budget t a)
    (hab : s.Requires a b) : s.Dependable budget t b where
  stored c hc := h.stored c (.head hab hc)
  acyclic c hc := h.acyclic c (.head hab hc)
  fulfilled c f hc := h.fulfilled c f (.head hab hc)

/-- A dependable flag resolves to what it serves by itself. -/
theorem Dependable.run_resolve_eq (hf : s.flag? f.feature = some f)
    (h : s.Dependable s.budget t f.feature) :
    (f.resolve s.host s.budget Watch.none t).run =
      (f.serveByState s.host s.budget Watch.none t).run := by
  rw [run_resolve, if_pos ((isEmpty_or_prerequisitesMet_iff hf).mpr h)]

/-- A flag that resolves to an identifier serves the first variation of it that it has, and fails if
it has none. -/
theorem run_evaluate_of_resolve {flagId id : String} (hf : s.flag? flagId = some f)
    (hid : id ≠ "") (hresolve : (f.resolve s.host s.budget Watch.none t).run = some id) :
    (∃ v, FirstOf (·.identifier = id) f.variations v ∧
      (Evaluation.evaluate s.host s.budget flagId t none).run = .ok (f, v)) ∨
    (∀ v ∈ f.variations, v.identifier ≠ id) ∧
      (Evaluation.evaluate s.host s.budget flagId t none).run =
        .error (.variationNotFound flagId id) := by
  have hname : f.feature = flagId := feature_of_flag? hf
  have hrun : (Evaluation.evaluate s.host s.budget flagId t none).run =
      (f.variationOf (some id)).map fun v => (f, v) := by
    rw [run_evaluate, hf, ← hresolve]
    rfl
  rw [variationOf_some hid] at hrun
  cases hfound : f.findVariation? id with
  | some v =>
    rw [hfound] at hrun
    exact .inl ⟨v, findVariation?_eq_some_iff.mp hfound, hrun⟩
  | none =>
    rw [hfound, hname] at hrun
    exact .inr ⟨findVariation?_eq_none_iff.mp hfound, hrun⟩

/-- **A prerequisite is met only by what its flag serves.** If the prerequisites of a stored flag
are met, then the flag that each of them names is stored and, evaluated on its own, resolves to one
of the variations that are accepted. It serves the first variation of that identifier that it has,
and only if it has none does the evaluation fail, for that reason. -/
theorem evaluate_of_prerequisitesMet (s : Snapshot) (t : Target) (f : Flag) (p : Prerequisite)
    (hf : s.flag? f.feature = some f)
    (hmet : (f.prerequisitesMet s.host s.budget t).run = true) (hp : p ∈ f.prerequisites) :
    ∃ g id, s.flag? p.feature = some g ∧ id ≠ "" ∧ id ∈ p.variations ∧
      ((∃ v, FirstOf (·.identifier = id) g.variations v ∧
        (Evaluation.evaluate s.host s.budget p.feature t none).run = .ok (g, v)) ∨
      (∀ v ∈ g.variations, v.identifier ≠ id) ∧
        (Evaluation.evaluate s.host s.budget p.feature t none).run =
          .error (.variationNotFound p.feature id)) := by
  have hdependable : s.Dependable s.budget t f.feature :=
    (prerequisitesMet_iff_dependable hf s.length_le_budget).mp hmet
  obtain ⟨g, hg, id, hserve, hid, haccepted⟩ :=
    hdependable.fulfilled f.feature f .refl hf p hp
  have hname : g.feature = p.feature := feature_of_flag? hg
  have hbelow : s.Dependable s.budget t g.feature :=
    hname ▸ hdependable.of_requires (requires_of_mem hf hp)
  -- by itself the flag serves what is accepted, and that is what it resolves to from the start
  have hresolve := (hbelow.run_resolve_eq (hname ▸ hg)).trans hserve
  exact ⟨g, id, hg, hid, haccepted, run_evaluate_of_resolve hg hid hresolve⟩

/-- What the flag at the top of the diamond requires is on for the target. -/
theorem evaluate_of_prerequisitesMet_diamond :
    diamond.flag? checkout.feature = some checkout ∧
    (checkout.prerequisitesMet diamond.host diamond.budget (.ofIdentifier "t")).run = true ∧
    ⟨"cart", ["yes"]⟩ ∈ checkout.prerequisites ∧
    ∃ g v, diamond.flag? "cart" = some g ∧
      (Evaluation.evaluate diamond.host diamond.budget "cart" (.ofIdentifier "t") none).run =
        .ok (g, v) ∧ v.identifier ∈ ["yes"] := by
  have hmet : (checkout.prerequisitesMet diamond.host diamond.budget
      (.ofIdentifier "t")).run = true := by decide +kernel
  have hp : ⟨"cart", ["yes"]⟩ ∈ checkout.prerequisites := by decide
  obtain ⟨g, id, hg, -, haccepted, hevaluate⟩ := evaluate_of_prerequisitesMet diamond
    (.ofIdentifier "t") checkout ⟨"cart", ["yes"]⟩ (by decide) hmet hp
  obtain rfl : plainFlag "cart" ["base"] = g := Option.some.inj hg
  obtain rfl : id = "yes" := by simpa using haccepted
  refine ⟨by decide, hmet, hp, plainFlag "cart" ["base"], ?_⟩
  rcases hevaluate with ⟨v, ⟨before, after, hsplit, hv, -⟩, hrun⟩ | ⟨hnone, -⟩
  · exact ⟨v, hg, hrun, by rw [hv]; exact List.mem_singleton_self _⟩
  · exact absurd rfl (hnone _ List.mem_cons_self)

/-! ## What is met and not served -/

/-- A flag that serves a variation it does not have. -/
def phantomParent : Flag := { plainFlag "parent" [] with defaultServe := .variation "ghost" }

/-- A flag that accepts just that variation of the other. -/
def phantomChild : Flag := { plainFlag "child" [] with prerequisites := [⟨"parent", ["ghost"]⟩] }

/-- A snapshot of the two. -/
def phantom : Snapshot := ⟨[phantomChild, phantomParent], []⟩

/-- **A prerequisite may be met by what no evaluation serves**: the one flag serves as if the other
were in order, and the other evaluated on its own fails. -/
theorem prerequisitesMet_phantom :
    let t : Target := .ofIdentifier "t"
    phantom.flag? phantomChild.feature = some phantomChild ∧
    (phantomChild.prerequisitesMet phantom.host phantom.budget t).run = true ∧
    (Evaluation.evaluate phantom.host phantom.budget "child" t none).run =
      .ok (phantomChild, ⟨"yes", none, none, "true"⟩) ∧
    (Evaluation.evaluate phantom.host phantom.budget "parent" t none).run =
      .error (.variationNotFound "parent" "ghost") ∧
    ¬ ∀ p ∈ phantomChild.prerequisites, ∃ g v,
      (Evaluation.evaluate phantom.host phantom.budget p.feature t none).run = .ok (g, v) ∧
        v.identifier ∈ p.variations := by
  intro t
  have hparent : (Evaluation.evaluate phantom.host phantom.budget "parent" t none).run =
      .error (.variationNotFound "parent" "ghost") := by decide +kernel
  refine ⟨by decide, by decide +kernel, by decide +kernel, hparent, fun h => ?_⟩
  obtain ⟨g, v, hserved, -⟩ := h ⟨"parent", ["ghost"]⟩ (List.mem_singleton_self _)
  rw [hparent] at hserved
  cases hserved

end FlagReplica.Snapshot
