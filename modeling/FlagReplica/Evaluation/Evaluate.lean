import FlagReplica.Evaluation.Serve
/-!
# Evaluation

A flag is evaluated for a target: its prerequisites decide whether it may serve what its state and
rules say, or has to serve its off variation.

**Prerequisites fail closed.** They are met if each flag named is there, has its own prerequisites
met, and by itself serves a variation that is accepted. A flag that is reached from itself has none
met. The list `path` holds the flags whose prerequisites are being looked at.

`evaluate` and `explain` are the same walk, with nobody watching and with a watch that records.
-/

namespace FlagReplica

variable {m : Type → Type} [Monad m]

namespace Flag

/-- Whether the variation that a prerequisite serves by itself is accepted. -/
def accepts (p : Prerequisite) : Option String → Bool
  | some id => !id.isEmpty && p.variations.contains id
  | none => false

/-- Whether the prerequisites of a flag are met, at most so many levels deep, while those of other
flags are being looked at. -/
def prerequisitesMetWithin (h : Host m) (budget : Budget) (t : Target) :
    Nat → List String → Flag → m Bool
  | 0, _, _ => pure false
  | levels + 1, path, f =>
    f.prerequisites.allM fun p =>
      if p.feature ∈ f.feature :: path then do
        h.log .warn "prerequisite cycle detected"
        pure false
      else do
        match ← h.flag? p.feature with
        | none =>
          h.log .debug "prerequisite flag not found"
          pure false
        | some g =>
          let met ←
            if g.prerequisites.isEmpty then pure true
            else prerequisitesMetWithin h budget t levels (f.feature :: path) g
          if met then accepts p <$> g.serveByState h budget Watch.none t else pure false

/-- Whether the prerequisites of a flag are met. -/
def prerequisitesMet (h : Host m) (budget : Budget) (t : Target) (f : Flag) : m Bool :=
  f.prerequisitesMetWithin h budget t budget.flags []

/-- The identifier of the variation that the flag resolves to, if any. -/
def resolve (h : Host m) (budget : Budget) (watch : Watch m) (t : Target) (f : Flag) :
    m (Option String) := do
  if f.prerequisites.isEmpty then f.serveByState h budget watch t
  else
    let met ← f.prerequisitesMet h budget t
    watch .prerequisitesSatisfied met
    if met then f.serveByState h budget watch t
    else
      h.log .trace "prerequisites not satisfied, serving off variation"
      pure (some f.offVariation)

/-- The variation of an identifier that the flag resolved to. -/
def variationOf (f : Flag) : Option String → Except EvaluationError Variation
  | none => .error (.noVariation f.feature)
  | some id =>
    if id.isEmpty then .error (.noVariation f.feature)
    else
      match f.findVariation? id with
      | some v => .ok v
      | none => .error (.variationNotFound f.feature id)

/-- Evaluates the flag for a target. -/
def serve (h : Host m) (budget : Budget) (watch : Watch m) (t : Target) (f : Flag) :
    m (Except EvaluationError Variation) :=
  f.variationOf <$> f.resolve h budget watch t

end Flag

namespace Evaluation

/-- Whether a flag is of the kind that was asked for, if one was. -/
def kindFits (expected : Option FlagKind) (f : Flag) : Except EvaluationError Unit :=
  match expected with
  | none => .ok ()
  | some kind => if f.kind = kind then .ok () else .error (.kindMismatch kind f.kind)

/-- Looks a flag up and evaluates it for a target, for a watch. -/
def walk (h : Host m) (budget : Budget) (watch : Watch m) (flagId : String) (t : Target)
    (expected : Option FlagKind) : m (Except EvaluationError (Flag × Variation)) := do
  match ← h.flag? flagId with
  | none =>
    watch .flagExists false
    pure (.error (.flagNotFound flagId))
  | some f =>
    watch .flagExists true
    match kindFits expected f with
    | .error e => pure (.error e)
    | .ok () => (·.map fun v => (f, v)) <$> f.serve h budget watch t

/-- Evaluates the flag of an identifier for a target. -/
def evaluate (h : Host m) (budget : Budget) (flagId : String) (t : Target)
    (expected : Option FlagKind) : m (Except EvaluationError (Flag × Variation)) :=
  walk h budget Watch.none flagId t expected

/-- The watch that keeps what it is told, the last first. -/
def recorder : Watch (StateT (List TraceStep) m) := fun c passed => modify (⟨c, passed⟩ :: ·)

/-- The trace of a walk. -/
def traceOf (flagId : String) (t : Target) (steps : List TraceStep)
    (result : Except EvaluationError (Flag × Variation)) : Trace where
  flag := flagId
  target := t.identifier
  steps := steps.reverse
  variation := match result with
    | .ok (_, v) => some v
    | .error _ => none
  error := match result with
    | .ok _ => none
    | .error e => some e

/-- Evaluates the flag of an identifier for a target, and tells how it came to its result. -/
def explain (h : Host m) (budget : Budget) (flagId : String) (t : Target)
    (expected : Option FlagKind) : m (Except EvaluationError (Flag × Variation) × Trace) := do
  let (result, steps) ← (walk h.lift budget recorder flagId t expected).run []
  pure (result, traceOf flagId t steps result)

end Evaluation

end FlagReplica
