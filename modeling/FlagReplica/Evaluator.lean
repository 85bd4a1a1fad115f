import FlagReplica.Evaluation.Value
import FlagReplica.Repository.Host
/-!
# What callers ask

A caller asks for the value of a flag for a target and says what to serve if there is none. The
answer is always a value; `Evaluated.error` says why it is the caller's own. A sink, if there is
one, is told of every variation that a flag resolved to, also of one whose value then cannot be read
as what was asked for. A sink that fails costs nobody an answer.
-/

namespace FlagReplica

/-- A value, and why it is the default if it is. -/
structure Evaluated (α : Type) where
  value : α
  error : Option EvaluationError
  deriving Repr

/-- Whether the value is the default. -/
def Evaluated.isDefault {α : Type} (e : Evaluated α) : Bool := e.error.isSome

/-- Who is told of served variations. -/
structure Sink where
  /-- Whether it fails at being told. -/
  fails : Flag → Target → Variation → Bool

namespace Evaluator

variable {α : Type}

/-- Tells the sink, if there is one. -/
def notify (sink : Option Sink) (f : Flag) (t : Target) (v : Variation) :
    RepositoryAction Unit := do
  match sink with
  | none => return ()
  | some s =>
    Action.notify (.served f.feature t.identifier v.identifier)
    if s.fails f t v then Repository.log .warn "analytics sink panicked"

/-- Reports a flag that resolved to a variation, and gives the variation. -/
def finish (sink : Option Sink) (t : Target) :
    Except EvaluationError (Flag × Variation) → RepositoryAction (Except EvaluationError Variation)
  | .error e => return .error e
  | .ok (f, v) => do
    Repository.log .trace "evaluated a flag"
    notify sink f t v
    return .ok v

/-- The variation that a flag, of a kind if one is given, resolves to. -/
def variation (sink : Option Sink) (flagId : String) (t : Target) (expected : Option FlagKind) :
    RepositoryAction (Except EvaluationError Variation) := do
  finish sink t (← Repository.evaluate flagId t expected)

/-- The variation that a flag resolves to. -/
def evaluate (sink : Option Sink) (flagId : String) (t : Target) :
    RepositoryAction (Except EvaluationError Variation) :=
  variation sink flagId t none

/-- The variation that a flag resolves to, and how that came about. -/
def evaluateWithTrace (sink : Option Sink) (flagId : String) (t : Target) :
    RepositoryAction (Except EvaluationError Variation × Trace) := do
  let (result, trace) ← Repository.explain flagId t none
  return (← finish sink t result, trace)

/-- The line of the log for a default that is served. -/
def reportDefault (e : EvaluationError) : RepositoryAction Unit :=
  if e.isExpected then Repository.log .trace ("serving default value: " ++ e.message)
  else Repository.log .warn
    ("error occurred while evaluating a flag, serving default value: " ++ e.message)

/-- What a flag of a kind serves, read as a type, or a default. -/
def typed (sink : Option Sink) (kind : FlagKind) (read : Variation → Except EvaluationError α)
    (flagId : String) (t : Target) (default : α) : RepositoryAction (Evaluated α) := do
  match (← variation sink flagId t (some kind)) >>= read with
  | .ok x => return ⟨x, none⟩
  | .error e =>
    reportDefault e
    return ⟨default, some e⟩

/-- The boolean that a flag serves. -/
def boolVariation (sink : Option Sink) := typed sink .boolean Variation.asBool

/-- The text that a flag serves. -/
def stringVariation (sink : Option Sink) := typed sink .string Variation.asString

/-- The integer that a flag serves. -/
def intVariation (sink : Option Sink) := typed sink .int Variation.asInt

/-- The number that a flag serves. -/
def numberVariation (sink : Option Sink) := typed sink .int Variation.asNumber

/-- The JSON value that a flag serves. -/
def jsonVariation (sink : Option Sink) := typed sink .json Variation.asJson

/-- What each of some flags serves, except those that cannot be evaluated. -/
def serveEach (sink : Option Sink) (t : Target) :
    List Flag → RepositoryAction (List (String × Variation))
  | [] => return []
  | f :: fs => do
    match ← Repository.serve f t with
    | .ok v =>
      notify sink f t v
      return (f.feature, v) :: (← serveEach sink t fs)
    | .error e =>
      Repository.log .warn ("skipping flag that failed to evaluate: " ++ e.message)
      serveEach sink t fs

/-- What each flag of an environment serves, in the order of the environment's list. -/
def evaluateAll (sink : Option Sink) (env : String) (t : Target) :
    RepositoryAction (List (String × Variation)) := do
  serveEach sink t (← Repository.getFlags env)

end Evaluator

end FlagReplica
