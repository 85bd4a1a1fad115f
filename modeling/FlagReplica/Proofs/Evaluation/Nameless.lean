import FlagReplica.Proofs.Evaluation.Relevance
/-!
# Targets without an identifier

A target without an identifier is never targeted: no target map and no rule has a say in what it is
served, neither of the flag that is evaluated nor of any flag that this one requires, whatever
attributes the target has. `explain_untargeted` says so of two evaluations, one of which takes place
where no flag has a target map or a rule at all. They come to the same by the same steps.

The test of the identifier is made in one place, where a flag decides what it serves by itself
(`serveByState_untargeted`). Prerequisites are looked at by another way, which asks every flag that
it comes to the same question; the induction over that way is on the depth that is left
(`prerequisitesMetWithin_untargeted`), and it holds of circles as well, since those are cut off by
names, which stay.
-/

namespace FlagReplica

/-- The flag without its target map and its rules. -/
def Flag.untargeted (f : Flag) : Flag := { f with rules := [], variationToTargetMap := [] }

/-- The place, where no flag has a target map or a rule. -/
def Host.untargeted {m : Type → Type} [Monad m] (h : Host m) : Host m :=
  { h with flag? := fun id => Option.map Flag.untargeted <$> h.flag? id }

/-- What an evaluation comes to, for the flag without its target map and its rules. -/
def Evaluation.untargeted (result : Except EvaluationError (Flag × Variation)) :
    Except EvaluationError (Flag × Variation) :=
  result.map fun served => (served.1.untargeted, served.2)

/-- A trace tells which variation was served, and nothing else of the flag. -/
theorem traceOf_untargeted (flagId : String) (t : Target) (steps : List TraceStep)
    (result : Except EvaluationError (Flag × Variation)) :
    Evaluation.traceOf flagId t steps (Evaluation.untargeted result) =
      Evaluation.traceOf flagId t steps result := by
  cases result <;> rfl

/-! ## Evaluation, part by part -/

section Parts

variable {m : Type → Type} [Monad m] [LawfulMonad m] {h : Host m} {t : Target}
variable (ht : t.identifier = "") (budget : Budget) (watch : Watch m)

include ht

omit [LawfulMonad m] in
/-- **What a flag serves by itself** to a target without an identifier is its default, if it is
on. -/
theorem serveByState_untargeted (f : Flag) :
    f.untargeted.serveByState h.untargeted budget watch t = f.serveByState h budget watch t := by
  have hempty : t.identifier.isEmpty = true := by rw [ht]; rfl
  have hon : f.untargeted.serveOn h budget watch t = f.serveOn h budget watch t := by
    rw [Flag.serveOn, if_pos hempty, Flag.serveOn, if_pos hempty]
    rfl
  have hlook : f.untargeted.serveByState h.untargeted budget watch t =
      f.untargeted.serveByState h budget watch t := Flag.serveByState_flag? h _ budget watch t _
  rw [hlook, Flag.serveByState, hon]
  rfl

/-- **Whether its prerequisites are met** depends on no target map and no rule of any of them. -/
theorem prerequisitesMetWithin_untargeted (levels : Nat) (path : List String) (f : Flag) :
    f.untargeted.prerequisitesMetWithin h.untargeted budget t levels path =
      f.prerequisitesMetWithin h budget t levels path := by
  induction levels generalizing path f with
  | zero => rfl
  | succ levels ih =>
    unfold Flag.prerequisitesMetWithin
    refine congrArg (List.allM · f.prerequisites) (funext fun p => ?_)
    have hpath : f.untargeted.feature :: path = f.feature :: path := rfl
    rw [hpath]
    by_cases hmem : p.feature ∈ f.feature :: path
    · -- a circle is cut off by the names on the path, whatever the flags are
      rw [if_pos hmem, if_pos hmem]
      rfl
    · rw [if_neg hmem, if_neg hmem]
      have hfound : h.untargeted.flag? p.feature =
          Option.map Flag.untargeted <$> h.flag? p.feature := rfl
      rw [hfound, bind_map_left]
      refine bind_congr fun found => ?_
      cases found with
      | none => rfl
      | some g =>
        simp only [Option.map_some, ih, serveByState_untargeted ht]
        rfl

theorem resolve_untargeted (f : Flag) :
    f.untargeted.resolve h.untargeted budget watch t = f.resolve h budget watch t := by
  have hmet : f.untargeted.prerequisitesMet h.untargeted budget t =
      f.prerequisitesMet h budget t := prerequisitesMetWithin_untargeted ht budget _ _ f
  have hserve := serveByState_untargeted (h := h) ht budget watch f
  simp only [Flag.resolve, hmet, hserve]
  rfl

theorem walk_untargeted (flagId : String) (expected : Option FlagKind) :
    Evaluation.walk h.untargeted budget watch flagId t expected =
      Evaluation.untargeted <$> Evaluation.walk h budget watch flagId t expected := by
  have hfound : h.untargeted.flag? flagId = Option.map Flag.untargeted <$> h.flag? flagId := rfl
  rw [Evaluation.walk, Evaluation.walk, hfound, bind_map_left, map_bind]
  refine bind_congr fun found => ?_
  cases found with
  | none =>
    rw [map_bind, map_pure]
    rfl
  | some f =>
    have hkind : Evaluation.kindFits expected f.untargeted =
        Evaluation.kindFits expected f := rfl
    rw [Option.map_some]
    dsimp only
    rw [map_bind]
    refine bind_congr fun _ => ?_
    rw [hkind]
    cases Evaluation.kindFits expected f with
    | error e =>
      rw [map_pure]
      rfl
    | ok u =>
      dsimp only [Flag.serve]
      rw [resolve_untargeted ht, Functor.map_map, Functor.map_map, Functor.map_map]
      refine congrArg (· <$> f.resolve h budget watch t) (funext fun served => ?_)
      have hvariation : f.untargeted.variationOf served = f.variationOf served := rfl
      rw [hvariation]
      cases f.variationOf served <;> rfl

end Parts

/-! ## Snapshots -/

namespace Snapshot

variable {s : Snapshot} {t : Target}

/-- The snapshot, in which no flag has a target map or a rule. -/
def untargeted (s : Snapshot) : Snapshot := { s with flags := s.flags.map Flag.untargeted }

theorem flag?_untargeted (id : String) :
    s.untargeted.flag? id = (s.flag? id).map Flag.untargeted := by
  rw [flag?, untargeted, List.find?_map]
  rfl

theorem budget_untargeted : s.untargeted.budget = s.budget := by
  rw [budget, untargeted, List.length_map]
  rfl

theorem keep_untargeted (σ : Type) :
    s.untargeted.host.keep σ = (s.host.keep σ).untargeted := by
  have hflag : (s.untargeted.host.keep σ).flag? = (s.host.keep σ).untargeted.flag? := by
    funext id
    refine StateT.ext fun kept => ?_
    exact congrArg (fun found : Option Flag => (found, kept)) (flag?_untargeted id)
  rw [Host.keep, Host.lift] at hflag ⊢
  dsimp only at hflag
  rw [hflag]
  rfl

/-- **A target without an identifier is never targeted.** Where the target map and the rules of
every flag are taken away, of the one that is evaluated and of all that it requires, the evaluation
for such a target comes to the same variation or the same error, and its trace is the same step by
step. -/
theorem explain_untargeted (s : Snapshot) (t : Target) (ht : t.identifier = "") (flagId : String)
    (expected : Option FlagKind) :
    let given := (Evaluation.explain s.host s.budget flagId t expected).run
    let untargeted :=
      (Evaluation.explain s.untargeted.host s.untargeted.budget flagId t expected).run
    untargeted.1.map (·.2) = given.1.map (·.2) ∧ untargeted.2 = given.2 := by
  intro given untargeted
  have huntargeted : untargeted = (Evaluation.untargeted given.1, given.2) := by
    have hwalk := walk_untargeted (h := s.host.keep (List TraceStep)) ht s.budget
      Evaluation.recorder flagId expected
    simp only [given, untargeted, Evaluation.explain_eq_walk, budget_untargeted, keep_untargeted,
      hwalk, StateT.run_map, Id.run_map, traceOf_untargeted]
  rw [huntargeted]
  cases given.1 <;> exact ⟨rfl, rfl⟩

/-- A flag that serves one variation to all but those that it targets, the empty identifier and
one plan. -/
def campaign (feature : String) (requires : List String) : Flag :=
  { plainFlag feature requires with
    rules := [⟨none, 1, [⟨none, "plan", .oneOf, ["pro"], false⟩], .variation "no"⟩]
    variationToTargetMap := [⟨"no", [⟨"", ""⟩], []⟩] }

/-- A campaign that requires another, beside two that require each other. -/
def campaigns : Snapshot :=
  ⟨[campaign "sale" ["club"], campaign "club" [], campaign "loop" ["sale", "pool"],
    campaign "pool" ["loop"]], []⟩

/-- A target without an identifier, of which a plan is known. -/
def passerBy : Target := (Target.ofIdentifier "").setAttribute "plan" (.text "pro")

theorem explain_untargeted_campaigns :
    passerBy.identifier = "" ∧
      (let given := (Evaluation.explain campaigns.host campaigns.budget "sale" passerBy none).run
      let untargeted := (Evaluation.explain campaigns.untargeted.host campaigns.untargeted.budget
        "sale" passerBy none).run
      untargeted.1.map (·.2) = given.1.map (·.2) ∧ untargeted.2 = given.2) ∧
      (Evaluation.explain campaigns.host campaigns.budget "sale" passerBy none).run.1.map
        (·.2.identifier) = .ok "yes" ∧
      (Evaluation.explain campaigns.host campaigns.budget "sale"
        { passerBy with identifier := "ann" } none).run.1.map (·.2.identifier) = .ok "no" :=
  ⟨rfl, explain_untargeted campaigns passerBy rfl "sale" none, by decide +kernel,
    by decide +kernel⟩

end Snapshot

end FlagReplica
