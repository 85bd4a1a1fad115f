import FlagReplica.Evaluator
import FlagReplica.Sync.Synchronizer
/-!
# The client

What a program holds: a repository that a synchronizer keeps in step, and the evaluation of flags on
it. A client starts from what its store last persisted, and flushes the store when it is closed.
-/

namespace FlagReplica

/-- What a client is made of. -/
structure ClientConfig where
  cacheCapacity : Nat
  sync : SyncConfig
  /-- Whether events can be streamed. -/
  hasConnector : Bool
  store : Option Store
  deriving Repr

namespace Client

/-- The repository that a client starts with. -/
def repository (config : ClientConfig) : Repository :=
  match config.store with
  | some store => .withStore config.cacheCapacity store
  | none => .empty config.cacheCapacity

/-- A client that starts to synchronize, with the notices of its start. There is none if its store
cannot be loaded. -/
def create (config : ClientConfig) : Except Error Synchronizer × List Notice :=
  let loaded := Repository.load.run.run (repository config)
  match loaded.value with
  | .error e => (.error e, loaded.notices)
  | .ok () =>
    let started := Synchronizer.start.run
      (.initial config.sync config.hasConnector loaded.state)
    (.ok started.state, loaded.notices ++ started.notices)

/-- What each flag serves in the environment of the session. Before there is a session that is
nothing. -/
def evaluateAll (sink : Option Sink) (t : Target) : SyncAction (List (String × Variation)) := do
  match (← Action.get).session with
  | none =>
    Synchronizer.log .debug "evaluating all flags before authentication"
    return []
  | some session =>
    Synchronizer.onRepository (Evaluator.evaluateAll sink session.environment t)

/-- Flushes the store and stops the synchronizer. -/
def close : SyncAction (Except Error Unit) := do
  Synchronizer.log .debug "closing client"
  Synchronizer.onRepository Repository.flush
  if let some stop := (← Action.get).act? .cancel then stop
  return .ok ()

end Client

end FlagReplica
