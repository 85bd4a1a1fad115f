import FlagReplica.Repository.Records
import FlagReplica.Sync.Event
/-!
# What synchronization writes

The writes that keep the repository in step with the control plane: a list that was pulled, the
deletion that an event announces, and the thing that was fetched because an event announced it. Each
write that fails leaves a warning in the log and nothing else.

An event about a version that is there already is not followed up. One without a version always is.
-/

namespace FlagReplica.Repository

variable {α : Type} [Record α]

/-- Stores a list that was pulled, if it was, and says whether that went well. -/
def storePulled (env : String) (what : String) (answer : Except Error (List α)) :
    RepositoryAction Bool := do
  let result ← match answer with
    | .ok xs => (setAll env xs true).run
    | .error e => pure (.error e)
  match result with
  | .ok () => return true
  | .error e =>
    log .warn ("failed to pull " ++ what ++ ": " ++ e.message)
    return false

/-- Stores the flags that were pulled. -/
def storePulledFlags (env : String) (answer : Except Error (List Flag)) : RepositoryAction Bool :=
  storePulled env "flags" answer

/-- Stores the segments that were pulled. -/
def storePulledSegments (env : String) (answer : Except Error (List Segment)) :
    RepositoryAction Bool :=
  storePulled env "segments" answer

/-- Reports an event that could not be followed. -/
def reportFailure : Except Error Unit → RepositoryAction Unit
  | .ok () => return ()
  | .error e => log .warn ("failed to apply stream event: " ++ e.message)

/-- Whether a version that an event announces is there already. -/
def isKnown (cached : Option Int64) (e : PushEvent) : Bool :=
  0 < e.version && cached.any (e.version ≤ ·)

/-- Deletes what an event says was deleted. -/
def deleteAnnounced (α : Type) [Record α] (env : String) (e : PushEvent) :
    RepositoryWrite Unit := do
  deleteOne α e.identifier
  removeFrom α env e.identifier

/-- Whether what an event announces has to be fetched. -/
def mustFetch (α : Type) [Record α] (e : PushEvent) : RepositoryAction Bool := do
  let cached : Option α ← get e.identifier
  return !isKnown (cached.map Record.version) e

/-- Follows an event as far as that goes without asking, and says what has to be asked for. -/
def receive (env : String) (e : PushEvent) : RepositoryAction (Option EntityKind) := do
  log .debug ("received " ++ e.domain.label ++ " " ++ e.event.label ++ " event")
  match e.domain, e.event with
  | .flag, .delete =>
    reportFailure (← (deleteAnnounced Flag env e).run)
    return none
  | .segment, .delete =>
    reportFailure (← (deleteAnnounced Segment env e).run)
    return none
  | .flag, _ => return if ← mustFetch Flag e then some .flag else none
  | .segment, _ => return if ← mustFetch Segment e then some .segment else none
  | .unknown, _ => return none

/-- Stores a single thing by itself and in its list. -/
def setAndMerge (env : String) (x : α) : RepositoryWrite Unit := do
  setOne x false
  merge env x

/-- Stores what was fetched because an event announced it, if it was. -/
def storeFetched (env : String) (answer : Except Error α) : RepositoryAction Unit := do
  reportFailure (← match answer with
    | .ok x => (setAndMerge env x).run
    | .error e => pure (.error e))

/-- Follows an event to the end, given the answers to what may be asked. -/
def handleEvent (env : String) (e : PushEvent) (flag : Except Error Flag)
    (segment : Except Error Segment) : RepositoryAction Unit := do
  match ← receive env e with
  | some .flag => storeFetched env flag
  | some .segment => storeFetched env segment
  | none => return ()

/-- Flushes the store if anything changed. -/
def flush : RepositoryAction Unit := do
  match ← persistIfChanged.run with
  | .ok true => log .debug "persisted repository"
  | .ok false => return ()
  | .error e => log .warn ("failed to persist repository: " ++ e.message)

end FlagReplica.Repository
