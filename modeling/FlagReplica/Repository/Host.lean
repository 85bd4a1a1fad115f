import FlagReplica.Evaluation.Evaluate
import FlagReplica.Repository.Records
/-!
# Evaluation on a repository

A repository is a place where evaluation takes place. Its look-ups are the reads of the repository:
what is looked up becomes recent in the cache, or is copied into it, and nothing that is held
changes.
-/

namespace FlagReplica.Repository

/-- The repository as a place for evaluation. -/
def host : Host RepositoryAction where
  flag? := getFlag
  segment? := getSegment
  log := Repository.log

/-- Enough for evaluation on the repository: no more identifiers can be found than there are entries
cached and stored. -/
def budget (r : Repository) : Budget :=
  let entries := r.cache.size + (r.store.elim 0 (·.working.length))
  .ofCounts entries entries

/-- Evaluates the flag of an identifier for a target. -/
def evaluate (flagId : String) (t : Target) (expected : Option FlagKind) :
    RepositoryAction (Except EvaluationError (Flag × Variation)) := do
  Evaluation.evaluate host (← Action.get).budget flagId t expected

/-- Evaluates the flag of an identifier for a target, and tells how it came to its result. -/
def explain (flagId : String) (t : Target) (expected : Option FlagKind) :
    RepositoryAction (Except EvaluationError (Flag × Variation) × Trace) := do
  Evaluation.explain host (← Action.get).budget flagId t expected

/-- Evaluates a flag for a target. -/
def serve (f : Flag) (t : Target) : RepositoryAction (Except EvaluationError Variation) := do
  f.serve host (← Action.get).budget Watch.none t

end FlagReplica.Repository
