import FlagReplica.Proofs.Evaluation.Prerequisites
/-!
# Explaining an evaluation does not change it

`evaluate` and `explain` are one walk, watched by nobody and watched by a recorder that keeps what
it is told next to whatever the walk is made in. `Erases` says that an action which keeps something
comes to what another one comes to, once what it keeps is forgotten. The recorder erases to nobody
watching, each look-up erases to itself, and what is put together from actions that erase erases,
so the walk does, by one lemma for each of its parts. `explain_eq_evaluate` is what it comes to.

This holds wherever evaluation takes place. On a repository the look-ups change which entries are
recent and write to the log, and they do so just the same when they are explained.
-/

namespace FlagReplica

variable {m : Type → Type} [Monad m] {σ α β : Type}

/-- From whatever is kept, the first action comes to what the second comes to. -/
def Erases (a : StateT σ m α) (b : m α) : Prop := ∀ kept, Prod.fst <$> a.run kept = b

namespace Erases

variable [LawfulMonad m] {a : StateT σ m α} {b : m α}

theorem pure (x : α) : Erases (Pure.pure x : StateT σ m α) (Pure.pure x) := by
  intro kept
  rw [StateT.run_pure, map_pure]

theorem bind {f : α → StateT σ m β} {g : α → m β} (ha : Erases a b)
    (hf : ∀ x, Erases (f x) (g x)) : Erases (a >>= f) (b >>= g) := by
  intro kept
  rw [StateT.run_bind, map_bind, ← ha kept, bind_map_left]
  exact congrArg _ (funext fun p => hf p.1 p.2)

theorem map (f : α → β) (h : Erases a b) : Erases (f <$> a) (f <$> b) := by
  rw [← bind_pure_comp, ← bind_pure_comp]
  exact h.bind fun x => .pure (f x)

/-- An action that keeps nothing erases to itself. -/
theorem lift (b : m α) : Erases (liftM b : StateT σ m α) b := by
  intro kept
  change Prod.fst <$> (b >>= fun x => Pure.pure (x, kept)) = b
  rw [map_bind]
  simp

omit [LawfulMonad m] in
theorem ite {p : Prop} [Decidable p] {a' : StateT σ m α} {b' : m α} (h : Erases a b)
    (h' : Erases a' b') : Erases (if p then a else a') (if p then b else b') := by
  split
  · exact h
  · exact h'

theorem anyM {p : α → StateT σ m Bool} {q : α → m Bool} (xs : List α)
    (h : ∀ x, Erases (p x) (q x)) : Erases (xs.anyM p) (xs.anyM q) := by
  induction xs with
  | nil => exact .pure false
  | cons x xs ih =>
    refine (h x).bind fun found => ?_
    cases found with
    | true => exact .pure true
    | false => exact ih

theorem allM {p : α → StateT σ m Bool} {q : α → m Bool} (xs : List α)
    (h : ∀ x, Erases (p x) (q x)) : Erases (xs.allM p) (xs.allM q) := by
  induction xs with
  | nil => exact .pure true
  | cons x xs ih =>
    refine (h x).bind fun holds => ?_
    cases holds with
    | true => exact ih
    | false => exact .pure false

end Erases

variable [LawfulMonad m] (h : Host m) (budget : Budget) (t : Target)

/-! ## What is asked without being watched -/

theorem erases_isMemberBy {contains' : Segment → StateT σ m Bool} {contains : Segment → m Bool}
    (hcontains : ∀ s, Erases (contains' s) (contains s)) (ids : List String) :
    Erases (isMemberBy h.lift contains' ids) (isMemberBy h contains ids) := by
  refine .anyM ids fun id => (Erases.lift (h.segment? id)).bind fun found => ?_
  cases found with
  | some s => exact hcontains s
  | none => exact (Erases.lift _).bind fun _ => .pure false

theorem erases_holdsWith {member' : List String → StateT σ m Bool} {member : List String → m Bool}
    (hmember : ∀ ids, Erases (member' ids) (member ids)) (c : Clause) :
    Erases (c.holdsWith member' t) (c.holdsWith member t) := by
  refine .map c.settle ?_
  unfold Clause.answer?
  cases c.values with
  | nil => exact .pure none
  | cons first values => exact .ite ((hmember _).map some) (.pure _)

theorem erases_containsWithin (levels : Nat) (visiting : List String) (s : Segment) :
    Erases (s.containsWithin h.lift t levels visiting : StateT σ m Bool)
      (s.containsWithin h t levels visiting) := by
  induction levels generalizing visiting s with
  | zero => exact .pure false
  | succ levels ih =>
    unfold Segment.containsWithin
    refine .ite ((Erases.lift _).bind fun _ => .pure false) (.ite (.pure true) ?_)
    exact .ite (.pure false) (.anyM _ (erases_holdsWith t (erases_isMemberBy h (ih _))))

theorem erases_isMember (ids : List String) :
    Erases (isMember h.lift budget t ids : StateT σ m Bool) (isMember h budget t ids) :=
  erases_isMemberBy h (erases_containsWithin h t _ _) ids

theorem erases_holds (c : Clause) :
    Erases (c.holds h.lift budget t : StateT σ m Bool) (c.holds h budget t) :=
  erases_holdsWith t (erases_isMember h budget t) c

theorem erases_findMapped (entries : List VariationMap) :
    Erases (Flag.findMapped h.lift budget t entries : StateT σ m (Option String))
      (Flag.findMapped h budget t entries) := by
  induction entries with
  | nil => exact .pure none
  | cons entry entries ih =>
    unfold Flag.findMapped
    exact .ite (.pure _) ((erases_isMember h budget t _).bind fun _ => .ite (.pure _) ih)

theorem erases_findMatching (rules : List ServingRule) :
    Erases (Flag.findMatching h.lift budget t rules : StateT σ m (Option ServingRule))
      (Flag.findMatching h budget t rules) := by
  induction rules with
  | nil => exact .pure none
  | cons rule rules ih =>
    unfold Flag.findMatching
    exact (Erases.allM _ (erases_holds h budget t)).bind fun _ => .ite (.pure _) ih

theorem erases_report (d : Distribution) :
    Erases (d.report h.lift t : StateT σ m (Option String)) (d.report h t) := by
  refine .map d.pick? ?_
  unfold Target.reportBucket
  exact .ite ((Erases.lift _).bind fun _ => .pure _) (.pure _)

/-! ## The walk -/

/-- Whatever the watch does with what it is told, it stays with the watch. -/
def Watch.Discreet (watch : Watch (StateT σ m)) : Prop :=
  ∀ c passed, Erases (watch c passed) (Watch.none c passed)

theorem discreet_none : Watch.Discreet (Watch.none : Watch (StateT σ m)) := fun _ _ => .pure ()

theorem discreet_recorder : Watch.Discreet (Evaluation.recorder : Watch (StateT _ m)) := by
  intro c passed kept
  change Prod.fst <$> (Pure.pure ((), _) : m (Unit × List TraceStep)) = Pure.pure ()
  rw [map_pure]

variable {watch : Watch (StateT σ m)} (hwatch : watch.Discreet)

include hwatch in
theorem erases_resolve_serve (serve : Serve) :
    Erases (serve.resolve h.lift watch t) (serve.resolve h Watch.none t) := by
  cases serve with
  | variation id => exact .pure _
  | distribution d => exact (hwatch _ _).bind fun _ => erases_report h t d

include hwatch in
theorem erases_serveDefault (f : Flag) :
    Erases (f.serveDefault h.lift watch t) (f.serveDefault h Watch.none t) :=
  (hwatch _ _).bind fun _ => erases_resolve_serve h t hwatch _

include hwatch in
theorem erases_serveByRules (f : Flag) :
    Erases (f.serveByRules h.lift budget watch t) (f.serveByRules h budget Watch.none t) := by
  unfold Flag.serveByRules
  refine (erases_findMatching h budget t _).bind fun rule => (hwatch _ _).bind fun _ => ?_
  -- what follows the report of a rule is the same whether there is one to report or not
  extract_lets rest' rest
  have hrest (u : PUnit) : Erases (rest' u) (rest u) := by
    cases rule with
    | none => exact erases_serveDefault h t hwatch f
    | some rule =>
      refine (erases_resolve_serve h t hwatch rule.serve).bind fun served => ?_
      cases served with
      | some id => exact .pure (some id)
      | none => exact erases_serveDefault h t hwatch f
  exact .ite ((hwatch _ _).bind hrest) (hrest ())

include hwatch in
theorem erases_serveOn (f : Flag) :
    Erases (f.serveOn h.lift budget watch t) (f.serveOn h budget Watch.none t) := by
  unfold Flag.serveOn
  refine .ite (erases_serveDefault h t hwatch f) ?_
  refine (erases_findMapped h budget t _).bind fun mapped => (hwatch _ _).bind fun _ => ?_
  extract_lets rest' rest
  have hrest (u : PUnit) : Erases (rest' u) (rest u) := by
    cases mapped with
    | some id => exact .pure (some id)
    | none => exact erases_serveByRules h budget t hwatch f
  exact .ite ((hwatch _ _).bind hrest) (hrest ())

include hwatch in
/-- **What a flag serves by itself** does not depend on who watches. -/
theorem erases_serveByState (f : Flag) :
    Erases (f.serveByState h.lift budget watch t) (f.serveByState h budget Watch.none t) :=
  (hwatch _ _).bind fun _ => .ite (erases_serveOn h budget t hwatch f) (.pure _)

/-- **Nor do its prerequisites**, which nobody watches. -/
theorem erases_prerequisitesMetWithin (levels : Nat) (path : List String) (f : Flag) :
    Erases (f.prerequisitesMetWithin h.lift budget t levels path : StateT σ m Bool)
      (f.prerequisitesMetWithin h budget t levels path) := by
  induction levels generalizing path f with
  | zero => exact .pure false
  | succ levels ih =>
    unfold Flag.prerequisitesMetWithin
    refine .allM _ fun p => .ite ((Erases.lift _).bind fun _ => .pure false) ?_
    refine (Erases.lift (h.flag? p.feature)).bind fun found => ?_
    cases found with
    | none => exact (Erases.lift _).bind fun _ => .pure false
    | some g =>
      have hserve (met : Bool) : Erases
          (if met then Flag.accepts p <$> g.serveByState h.lift budget Watch.none t
            else pure false : StateT σ m Bool)
          (if met then Flag.accepts p <$> g.serveByState h budget Watch.none t
            else pure false) :=
        .ite ((erases_serveByState h budget t discreet_none g).map _) (.pure false)
      exact .ite ((Erases.pure true).bind hserve) ((ih _ g).bind hserve)

include hwatch in
theorem erases_resolve (f : Flag) :
    Erases (f.resolve h.lift budget watch t) (f.resolve h budget Watch.none t) := by
  unfold Flag.resolve
  refine .ite (erases_serveByState h budget t hwatch f) ?_
  refine (erases_prerequisitesMetWithin h budget t _ _ f).bind fun met =>
    (hwatch _ _).bind fun _ => .ite (erases_serveByState h budget t hwatch f) ?_
  exact (Erases.lift _).bind fun _ => .pure _

include hwatch in
/-- **The walk comes to the same, whoever watches.** -/
theorem erases_walk (flagId : String) (expected : Option FlagKind) :
    Erases (Evaluation.walk h.lift budget watch flagId t expected)
      (Evaluation.walk h budget Watch.none flagId t expected) := by
  unfold Evaluation.walk
  refine (Erases.lift (h.flag? flagId)).bind fun found => ?_
  cases found with
  | none => exact (hwatch _ _).bind fun _ => .pure _
  | some f =>
    refine (hwatch _ _).bind fun _ => ?_
    cases Evaluation.kindFits expected f with
    | error e => exact .pure _
    | ok u => exact ((erases_resolve h budget t hwatch f).map f.variationOf).map _

/-! ## Explanations -/

/-- The variation that an evaluation serves, if it serves one. -/
def Evaluation.served? (result : Except EvaluationError (Flag × Variation)) : Option Variation :=
  result.toOption.map (·.2)

/-- What stands in the way of an evaluation, if something does. -/
def Evaluation.obstacle? : Except EvaluationError (Flag × Variation) → Option EvaluationError
  | .ok _ => none
  | .error e => some e

/-- What an explanation says beside its steps: what the evaluation came to, and the flag, the
target, the variation and the error that the trace names. -/
def Evaluation.outline (explained : Except EvaluationError (Flag × Variation) × Trace) :
    Except EvaluationError (Flag × Variation) × String × String × Option Variation ×
      Option EvaluationError :=
  (explained.1, explained.2.flag, explained.2.target, explained.2.variation, explained.2.error)

/-- **Explaining an evaluation does not change it**, wherever it takes place: once the steps are
left out, an explanation is the evaluation, with the flag that was asked for, the target it was
asked for, and either the variation served and no error or the error and no variation. -/
theorem explain_eq_evaluate (h : Host m) (budget : Budget) (flagId : String) (t : Target)
    (expected : Option FlagKind) :
    Evaluation.outline <$> Evaluation.explain h budget flagId t expected =
      (fun result => (result, flagId, t.identifier, Evaluation.served? result,
        Evaluation.obstacle? result)) <$> Evaluation.evaluate h budget flagId t expected := by
  have hwalk := erases_walk h budget t discreet_recorder flagId expected []
  rw [Evaluation.evaluate, ← hwalk, Evaluation.explain, map_bind, ← comp_map, ← bind_pure_comp]
  refine congrArg _ (funext fun ⟨result, steps⟩ => ?_)
  rw [map_pure]
  cases result <;> rfl

/-- The explanations of a flag that requires itself by way of another, and of one that is not
there. -/
theorem explain_eq_evaluate_diamond :
    LawfulMonad Id ∧
    Evaluation.outline (Evaluation.explain Snapshot.diamond.host Snapshot.diamond.budget "left"
        (.ofIdentifier "t") none).run =
      (.ok (Snapshot.plainFlag "left" ["right"], ⟨"no", none, none, "false"⟩), "left", "t",
        some ⟨"no", none, none, "false"⟩, none) ∧
    Evaluation.outline (Evaluation.explain Snapshot.diamond.host Snapshot.diamond.budget "gone"
        (.ofIdentifier "t") none).run =
      (.error (.flagNotFound "gone"), "gone", "t", none, some (.flagNotFound "gone")) := by
  have hleft : (Evaluation.evaluate Snapshot.diamond.host Snapshot.diamond.budget "left"
      (.ofIdentifier "t") none).run =
        .ok (Snapshot.plainFlag "left" ["right"], ⟨"no", none, none, "false"⟩) := by
    decide +kernel
  have h (flagId : String) := explain_eq_evaluate Snapshot.diamond.host Snapshot.diamond.budget
    flagId (.ofIdentifier "t") none
  refine ⟨inferInstance, (h "left").trans ?_, (h "gone").trans rfl⟩
  exact congrArg (fun result => (result, "left", "t", Evaluation.served? result,
    Evaluation.obstacle? result)) hleft

end FlagReplica
