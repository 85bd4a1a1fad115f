import FlagReplica.Proofs.Evaluation.Audience
/-!
# What callers are answered

Callers ask in several ways, for a value of some type, for the variation, for how it came about, for
all flags of an environment. In each of them a flag resolves to a variation or it does not, a sink
may be told, and an answer is made, in an order that differs from one way to the next. A `Query` is
a question in one of these ways, and `Query.resolved` what is to be told of it.

Two things are the same of all of them. No answer depends on the sink, nor on whether it fails, and
the sink is told of each flag that resolved, once and in order (`Query.overheard`). A caller who
wants a value gets one in any case: the one that the flag serves, or else the caller's own along with
the reason (`TypedAnswer`). Both go over to any number of questions, one after the other
(`resolutions_told_once`).
-/

namespace FlagReplica.Evaluator

variable {α : Type}

/-! ## Values of a type -/

/-- The types of values that a caller may want. -/
inductive Wanted
  | bool
  | string
  | int
  | number
  | json
  deriving DecidableEq, Repr

namespace Wanted

/-- The values of the type. -/
def Value : Wanted → Type
  | bool => Bool
  | string => String
  | int => Int64
  | number => Binary64
  | json => Json

/-- The kind of the flags that serve such values. -/
def kind : Wanted → FlagKind
  | bool => .boolean
  | string => .string
  | int | number => .int
  | json => .json

/-- The value that a text stands for. -/
def read? : (w : Wanted) → String → Option w.Value
  | bool => Variation.bool?
  | string => some
  | int => Variation.int?
  | number => Variation.number?
  | json => Variation.json?

/-- Asks what a flag serves. -/
def ask (sink : Option Sink) :
    (w : Wanted) → String → Target → w.Value → RepositoryAction (Evaluated w.Value)
  | bool => boolVariation sink
  | string => stringVariation sink
  | int => intVariation sink
  | number => numberVariation sink
  | json => jsonVariation sink

/-- All are asked for in one way. -/
theorem ask_eq (sink : Option Sink) (w : Wanted) :
    w.ask sink = typed sink w.kind (Variation.readAs w.kind w.read?) := by
  cases w <;> rfl

end Wanted

/-- Why the caller's own value is served: an error of the evaluation, or a value that cannot be
read. -/
inductive Reason (r : Repository) (w : Wanted) (flagId : String) (t : Target) :
    EvaluationError → Prop
  | missing (found : ((Repository.getFlag flagId).run r).value = none) :
    Reason r w flagId t (.flagNotFound flagId)
  | otherKind (f : Flag) (found : ((Repository.getFlag flagId).run r).value = some f)
    (kind : f.kind ≠ w.kind) : Reason r w flagId t (.kindMismatch w.kind f.kind)
  | failed (f : Flag) (e : EvaluationError)
    (found : ((Repository.getFlag flagId).run r).value = some f) (kind : f.kind = w.kind)
    (failed : ((evaluate none flagId t).run r).value = .error e) : Reason r w flagId t e
  | unreadable (f : Flag) (v : Variation)
    (found : ((Repository.getFlag flagId).run r).value = some f) (kind : f.kind = w.kind)
    (served : ((evaluate none flagId t).run r).value = .ok v) (unread : w.read? v.value = none) :
    Reason r w flagId t (.invalidValue w.kind v.value)

/-- The flag is there and of the right kind, it is evaluated to a variation, and the value of the
variation reads as this. -/
def ServesValue (r : Repository) (w : Wanted) (flagId : String) (t : Target) (x : w.Value) : Prop :=
  ∃ f v, ((Repository.getFlag flagId).run r).value = some f ∧ f.kind = w.kind ∧
    ((evaluate none flagId t).run r).value = .ok v ∧ w.read? v.value = some x

/-- What a caller is answered who wants the value of a flag. -/
structure TypedAnswer (r : Repository) (w : Wanted) (flagId : String) (t : Target)
    (default : w.Value) (e : Evaluated w.Value) : Prop where
  error_eq_none_iff : e.error = none ↔ ∃ x, ServesValue r w flagId t x
  value_of_serves : ∀ x, ServesValue r w flagId t x → e.value = x
  default_of_error : ∀ err, e.error = some err → e.value = default ∧ Reason r w flagId t err

/-- The value that was read, or the default. -/
def settle (default : α) : Except EvaluationError α → Evaluated α
  | .ok x => ⟨x, none⟩
  | .error e => ⟨default, some e⟩

section Typed

variable (flagId : String) (t : Target) (r : Repository)

/-- **Evaluation looks the flag up**, and goes on if it is there and of the right kind. -/
theorem value_evaluate (expected : Option FlagKind) :
    ((Repository.evaluate flagId t expected).run r).value =
      match ((Repository.getFlag flagId).run r).value with
      | none => .error (.flagNotFound flagId)
      | some f => (Evaluation.kindFits expected f).bind fun _ =>
        ((f.serve Repository.host r.budget Watch.none t).run
          ((Repository.getFlag flagId).run r).state).value.map (f, ·) := by
  rw [Repository.evaluate, Repository.run_get_bind, Evaluation.evaluate, Evaluation.walk,
    Action.run_bind]
  dsimp only [Repository.host]
  cases ((Repository.getFlag flagId).run r).value with
  | none => rfl
  | some f =>
    dsimp only
    cases hkind : Evaluation.kindFits expected f with
    | error e => rfl
    | ok u =>
      rw [Action.run_bind, Action.run_map]
      rfl

/-- What the evaluator gives is the variation that evaluation comes to, whoever is told. -/
theorem value_variation (sink : Option Sink) (expected : Option FlagKind) :
    ((variation sink flagId t expected).run r).value =
      ((Repository.evaluate flagId t expected).run r).value.map (·.2) := by
  rw [variation, Action.run_bind]
  dsimp only
  cases ((Repository.evaluate flagId t expected).run r).value with
  | error e => rfl
  | ok p => rfl

/-- **A flag of the right kind** is evaluated as if no kind had been asked for. -/
theorem value_evaluate_of_kind {f : Flag} {kind : FlagKind}
    (hfound : ((Repository.getFlag flagId).run r).value = some f) (hkind : f.kind = kind) :
    ((Repository.evaluate flagId t (some kind)).run r).value =
      ((Repository.evaluate flagId t none).run r).value := by
  rw [value_evaluate, value_evaluate, hfound]
  dsimp only [Evaluation.kindFits]
  rw [if_pos hkind]

/-- The answer is settled by what the evaluation comes to. -/
theorem value_typed (sink : Option Sink) (kind : FlagKind)
    (read : Variation → Except EvaluationError α) (default : α) :
    ((typed sink kind read flagId t default).run r).value =
      settle default
        (((Repository.evaluate flagId t (some kind)).run r).value.map (·.2) >>= read) := by
  rw [typed, Action.run_bind, value_variation]
  dsimp only
  cases (((Repository.evaluate flagId t (some kind)).run r).value.map (·.2) >>= read) with
  | error e => rfl
  | ok x => rfl

theorem servesValue_iff {w : Wanted} {f : Flag} {x : w.Value}
    (hfound : ((Repository.getFlag flagId).run r).value = some f) :
    ServesValue r w flagId t x ↔ f.kind = w.kind ∧
      ∃ v, ((evaluate none flagId t).run r).value = .ok v ∧ w.read? v.value = some x := by
  constructor
  · rintro ⟨g, v, hg, hkind, hv, hx⟩
    rw [hfound, Option.some.injEq] at hg
    exact ⟨hg ▸ hkind, v, hv, hx⟩
  · rintro ⟨hkind, v, hv, hx⟩
    exact ⟨f, v, hfound, hkind, hv, hx⟩

/-- **The answer is the value that is served**, if one is, and otherwise there is a reason that none
is. -/
theorem settle_cases (w : Wanted) (default : w.Value) :
    let e := settle default (((Repository.evaluate flagId t (some w.kind)).run r).value.map (·.2)
      >>= Variation.readAs w.kind w.read?)
    (∃ x, e = ⟨x, none⟩ ∧ ∀ y, ServesValue r w flagId t y ↔ y = x) ∨
      ∃ err, e = ⟨default, some err⟩ ∧ Reason r w flagId t err ∧
        ∀ y, ¬ ServesValue r w flagId t y := by
  have hevaluate : ((evaluate none flagId t).run r).value =
      ((Repository.evaluate flagId t none).run r).value.map (·.2) := value_variation _ _ _ _ _
  cases hfound : ((Repository.getFlag flagId).run r).value with
  | none =>
    have hvalue : ((Repository.evaluate flagId t (some w.kind)).run r).value =
        .error (.flagNotFound flagId) := by rw [value_evaluate, hfound]
    refine .inr ⟨.flagNotFound flagId, by rw [hvalue]; rfl, .missing hfound, ?_⟩
    rintro y ⟨f, v, hf, -⟩
    rw [hfound] at hf
    cases hf
  | some f =>
    by_cases hkind : f.kind = w.kind
    · rw [value_evaluate_of_kind flagId t r hfound hkind, ← hevaluate]
      cases hresult : ((evaluate none flagId t).run r).value with
      | error err =>
        refine .inr ⟨err, rfl, .failed f err hfound hkind hresult, fun y => ?_⟩
        simp [servesValue_iff flagId t r hfound, hresult]
      | ok v =>
        have hread : (Except.ok v >>= Variation.readAs w.kind w.read?) =
            Variation.readAs w.kind w.read? v := rfl
        rw [hread, Variation.readAs]
        cases hx : w.read? v.value with
        | some x =>
          refine .inl ⟨x, rfl, fun y => ?_⟩
          simp [servesValue_iff flagId t r hfound, hkind, hresult, hx, eq_comm]
        | none =>
          refine .inr ⟨_, rfl, .unreadable f v hfound hkind hresult hx, fun y => ?_⟩
          simp [servesValue_iff flagId t r hfound, hresult, hx]
    · have hvalue : ((Repository.evaluate flagId t (some w.kind)).run r).value =
          .error (.kindMismatch w.kind f.kind) := by
        rw [value_evaluate, hfound]
        dsimp only [Evaluation.kindFits]
        rw [if_neg hkind]
        rfl
      refine .inr ⟨_, by rw [hvalue]; rfl, .otherKind f hfound hkind, fun y => ?_⟩
      simp [servesValue_iff flagId t r hfound, hkind]

/-- **A caller who wants a value is answered** with the value or with a reason. -/
theorem typedAnswer_ask (sink : Option Sink) (w : Wanted) (default : w.Value) :
    TypedAnswer r w flagId t default ((w.ask sink flagId t default).run r).value := by
  rw [Wanted.ask_eq, value_typed]
  obtain ⟨x, he, hserves⟩ | ⟨err, he, hreason, hnone⟩ := settle_cases flagId t r w default
  · rw [he]
    refine ⟨iff_of_true rfl ⟨x, (hserves x).mpr rfl⟩, ?_, ?_⟩
    · intro y hy
      exact ((hserves y).mp hy).symm
    · intro err herr
      cases herr
  · rw [he]
    refine ⟨iff_of_false (Option.some_ne_none err) fun ⟨y, hy⟩ => hnone y hy, ?_, ?_⟩
    · intro y hy
      exact absurd hy (hnone y)
    · intro err' herr
      cases herr
      exact ⟨rfl, hreason⟩

end Typed

/-! ## Questions -/

/-- What a caller may ask. -/
inductive Query
  /-- The value of a flag, with a value to serve if there is none. -/
  | typed (w : Wanted) (flagId : String) (t : Target) (default : w.Value)
  /-- The variation of a flag. -/
  | evaluate (flagId : String) (t : Target)
  /-- The variation of a flag, and how it came about. -/
  | trace (flagId : String) (t : Target)
  /-- The variations of all flags of an environment. -/
  | all (env : String) (t : Target)

/-- What a caller is answered. -/
inductive Reply
  | typed (w : Wanted) (e : Evaluated w.Value)
  | variation (result : Except EvaluationError Variation)
  | traced (result : Except EvaluationError Variation) (trace : Trace)
  | all (served : List (String × Variation))

namespace Query

/-- Asks, with an audience that is told. -/
def run (a : Audience) : Query → RepositoryAction Reply
  | typed w flagId t default => .typed w <$> w.ask a.now flagId t default
  | evaluate flagId t => .variation <$> Evaluator.evaluate a.now flagId t
  | trace flagId t =>
    (fun answer => .traced answer.1 answer.2) <$> evaluateWithTrace a.now flagId t
  | all env t => .all <$> (Repository.getFlags env >>= serveInTurn t a)

/-- The target that is asked about. -/
def target : Query → Target
  | typed _ _ t _ | evaluate _ t | trace _ t | all _ t => t

/-- The flags that resolve to a variation, with what they resolve to. A flag that is asked for
resolves even if its value cannot be read then. -/
def resolved (r : Repository) : Query → List (Flag × Variation)
  | typed w flagId t _ =>
    ((Repository.evaluate flagId t (some w.kind)).run r).value.toOption.toList
  | evaluate flagId t | trace flagId t =>
    ((Repository.evaluate flagId t none).run r).value.toOption.toList
  | all env t =>
    servedAlong t ((Repository.getFlags env).run r).value ((Repository.getFlags env).run r).state

/-- The flag is the one that is asked for, or one of the environment. -/
def Finds (r : Repository) (f : Flag) : Query → Prop
  | typed _ flagId _ _ | evaluate flagId _ | trace flagId _ =>
    ((Repository.getFlag flagId).run r).value = some f
  | all env _ => f ∈ ((Repository.getFlags env).run r).value

/-- What is to be answered. -/
def Answered (r : Repository) (reply : Reply) : Query → Prop
  | typed w flagId t default => ∃ e, reply = .typed w e ∧ TypedAnswer r w flagId t default e
  | evaluate flagId t =>
    reply = .variation (((Repository.evaluate flagId t none).run r).value.map (·.2))
  | trace flagId t => ∃ how,
    reply = .traced (((Repository.evaluate flagId t none).run r).value.map (·.2)) how
  | all env t => reply = .all ((resolved r (all env t)).map fun p => (p.1.feature, p.2))

/-- A sink that stays the same is told of all flags as the evaluator tells it. -/
theorem run_all_always (sink : Option Sink) (env : String) (t : Target) :
    (all env t).run (.always sink) = .all <$> evaluateAll sink env t := by
  rw [run, serveInTurn_always]
  rfl

end Query

section Told

variable (a : Audience) (flagId : String) (t : Target) (r : Repository)

/-- A flag that is asked for is told if it resolved. -/
theorem overheard_variation (expected : Option FlagKind) :
    Overheard (a.hears t ((Repository.evaluate flagId t expected).run r).value.toOption.toList)
      ((variation none flagId t expected).run r) ((variation a.now flagId t expected).run r) := by
  have hevaluate : Overheard [] ((Repository.evaluate flagId t expected).run r)
      ((Repository.evaluate flagId t expected).run r) :=
    .refl (Repository.servedIn_evaluate flagId t expected r)
  exact hevaluate.bind (overheard_finish a t _ _)

/-- What is made of the variation tells nobody. -/
theorem overheard_typed (kind : FlagKind) (read : Variation → Except EvaluationError α)
    (default : α) :
    Overheard (a.hears t ((Repository.evaluate flagId t (some kind)).run r).value.toOption.toList)
      ((typed none kind read flagId t default).run r)
      ((typed a.now kind read flagId t default).run r) := by
  rw [← List.append_nil (Audience.hears _ _ _)]
  refine (overheard_variation a flagId t r (some kind)).bind (.refl ?_)
  cases (((variation none flagId t (some kind)).run r).value >>= read) with
  | ok x => rfl
  | error e =>
    dsimp only [reportDefault]
    split <;> rfl

theorem overheard_evaluateWithTrace :
    Overheard (a.hears t ((Repository.evaluate flagId t none).run r).value.toOption.toList)
      ((evaluateWithTrace none flagId t).run r) ((evaluateWithTrace a.now flagId t).run r) := by
  obtain ⟨how, hexplain⟩ := Repository.run_explain flagId t none r
  have hquiet : Overheard [] ((Repository.explain flagId t none).run r)
      ((Repository.explain flagId t none).run r) := by
    refine .refl ?_
    rw [hexplain]
    exact Repository.servedIn_evaluate flagId t none r
  refine hquiet.bind ?_
  rw [hexplain]
  exact (overheard_finish a t _ _).map (·, how)

theorem value_evaluateWithTrace (sink : Option Sink) :
    ∃ how, ((evaluateWithTrace sink flagId t).run r).value =
      (((Repository.evaluate flagId t none).run r).value.map (·.2), how) := by
  obtain ⟨how, hexplain⟩ := Repository.run_explain flagId t none r
  refine ⟨how, ?_⟩
  rw [evaluateWithTrace, Action.run_bind, hexplain]
  dsimp only
  cases ((Repository.evaluate flagId t none).run r).value with
  | error e => rfl
  | ok p => rfl

theorem overheard_all (env : String) :
    Overheard (a.hears t ((Query.all env t).resolved r))
      ((Repository.getFlags env >>= serveInTurn t .nobody).run r)
      ((Repository.getFlags env >>= serveInTurn t a).run r) := by
  have hlist : Overheard [] ((Repository.getFlags env).run r) ((Repository.getFlags env).run r) :=
    .refl (congrArg servedIn (Repository.notices_getAll env r))
  exact hlist.bind (overheard_serveInTurn a t _ _)

/-- **No answer depends on who is told**, and of each flag that resolved the sink is told once. -/
theorem Query.overheard (q : Query) :
    Overheard (a.hears q.target (q.resolved r)) ((q.run .nobody).run r) ((q.run a).run r) := by
  cases q with
  | typed w flagId t default =>
    refine Overheard.map _ ?_
    rw [Wanted.ask_eq, Wanted.ask_eq]
    exact overheard_typed a flagId t r w.kind _ default
  | evaluate flagId t => exact (overheard_variation a flagId t r none).map _
  | trace flagId t => exact (overheard_evaluateWithTrace a flagId t r).map _
  | all env t => exact (overheard_all a t r env).map _

/-- **Every question is answered** as it is to be. -/
theorem Query.answered (q : Query) : q.Answered r ((q.run a).run r).value := by
  cases q with
  | typed w flagId t default =>
    rw [run, Action.run_map]
    exact ⟨_, rfl, typedAnswer_ask flagId t r a.now w default⟩
  | evaluate flagId t =>
    rw [run, Action.run_map]
    exact congrArg Reply.variation (value_variation flagId t r a.now none)
  | trace flagId t =>
    obtain ⟨how, hvalue⟩ := value_evaluateWithTrace flagId t r a.now
    rw [run, Action.run_map, hvalue]
    exact ⟨how, rfl⟩
  | all env t =>
    rw [(overheard a r (.all env t)).value, run, Action.run_map, Action.run_bind]
    exact congrArg Reply.all (value_serveInTurn t _ _)

/-- What evaluation comes to, it comes to of the flag that is looked up. -/
theorem found_of_evaluate {expected : Option FlagKind} {p : Flag × Variation}
    (h : p ∈ ((Repository.evaluate flagId t expected).run r).value.toOption.toList) :
    ((Repository.getFlag flagId).run r).value = some p.1 := by
  rw [value_evaluate] at h
  cases hfound : ((Repository.getFlag flagId).run r).value with
  | none =>
    rw [hfound] at h
    cases h
  | some f =>
    rw [hfound] at h
    dsimp only at h
    cases hkind : Evaluation.kindFits expected f with
    | error e =>
      rw [hkind] at h
      cases h
    | ok u =>
      rw [hkind, Except.bind] at h
      cases hserve : ((f.serve Repository.host r.budget Watch.none t).run
          ((Repository.getFlag flagId).run r).state).value with
      | error e =>
        rw [hserve] at h
        cases h
      | ok v =>
        rw [hserve] at h
        rw [List.mem_singleton.mp h]

/-- **The sink is handed a flag that was found.** -/
theorem Query.finds_of_resolved (q : Query) : ∀ p ∈ q.resolved r, q.Finds r p.1 := by
  intro p hp
  cases q with
  | typed w flagId t default => exact found_of_evaluate flagId t r hp
  | evaluate flagId t | trace flagId t => exact found_of_evaluate flagId t r hp
  | all env t => exact mem_of_servedAlong hp

end Told

/-! ## Any number of questions -/

/-- Questions, one after the other, each with an audience. -/
def asks (calls : List (Audience × Query)) : RepositoryAction (List Reply) :=
  calls.mapM fun call => call.2.run call.1

/-- The questions, with nobody to be told. -/
def unheard (calls : List (Audience × Query)) : List (Audience × Query) :=
  calls.map fun call => (.nobody, call.2)

/-- The calls of the sinks, one question after the other. -/
def heardAlong : List (Audience × Query) → Repository → List (List Notice)
  | [], _ => []
  | (a, q) :: calls, r =>
    a.hears q.target (q.resolved r) ++ heardAlong calls ((q.run .nobody).run r).state

theorem overheard_asks (calls : List (Audience × Query)) (r : Repository) :
    Overheard (heardAlong calls r) ((asks (unheard calls)).run r) ((asks calls).run r) := by
  induction calls generalizing r with
  | nil => exact .refl rfl
  | cons call calls ih =>
    obtain ⟨a, q⟩ := call
    rw [asks, asks, unheard, List.map_cons, List.mapM_cons, List.mapM_cons, heardAlong]
    exact (q.overheard a r).bind ((ih _).map _)

/-- **Each flag that resolves is told once, and no answer depends on that.** Of any questions, one
after the other, the answers and the repository are those without a sink, and among the notices are
those of one call for each flag that resolved, in order. Whatever is asked next is answered as it is
to be, and only flags that were found are told. An audience that does not change is a sink of the
evaluator, also where all flags are asked for. -/
theorem resolutions_told_once (r : Repository) (calls : List (Audience × Query)) :
    Overheard (heardAlong calls r) ((asks (unheard calls)).run r) ((asks calls).run r) ∧
      (∀ (a : Audience) (q : Query),
        let r' := ((asks calls).run r).state
        let o := (q.run a).run r'
        q.Answered r' o.value ∧
          Overheard (a.hears q.target (q.resolved r')) ((q.run .nobody).run r') o ∧
          (servedIn o.notices = if a.isSome then (q.resolved r').map fun p =>
            (p.1.feature, q.target.identifier, p.2.identifier) else []) ∧
          ∀ p ∈ q.resolved r', q.Finds r' p.1) ∧
      ∀ (sink : Option Sink) (env : String) (t : Target),
        (Query.all env t).run (.always sink) = .all <$> evaluateAll sink env t := by
  refine ⟨overheard_asks calls r, ?_, Query.run_all_always⟩
  intro a q r' o
  have hheard := q.overheard a r'
  refine ⟨q.answered a r', hheard, ?_, q.finds_of_resolved r'⟩
  rw [hheard.servedIn_eq, servedIn_hears]

end FlagReplica.Evaluator
