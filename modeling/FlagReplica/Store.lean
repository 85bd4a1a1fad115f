import FlagReplica.Action
import FlagReplica.Cache
import FlagReplica.Entry
import FlagReplica.Error
/-!
# The store

What outlives the program. Writes land in a working set, `persist` makes a snapshot of it, and
`load` goes back to the last snapshot. A store may be unavailable for some of its operations. These
then fail and change nothing.
-/

namespace FlagReplica

/-- The operations of a store that can fail. -/
inductive StoreOperation
  | set
  | remove
  | load
  | persist
  deriving DecidableEq, Repr, Inhabited

/-- The name of an operation. -/
def StoreOperation.name : StoreOperation → String
  | .set => "set"
  | .remove => "remove"
  | .load => "load"
  | .persist => "persist"

/-- What outlives the program. -/
structure Store where
  working : Table String Entry
  persisted : Table String Entry
  /-- When the last snapshot was made, if there is one. -/
  persistedAt : Option Time
  /-- The operations that fail. -/
  unavailable : List StoreOperation
  deriving Repr

/-- What is done to a store. -/
abbrev StoreAction := ExceptT Error (Action Notice Store)

namespace Store

/-- A store that holds nothing. -/
def empty : Store := ⟨[], [], none, []⟩

/-- The entry under a key. -/
def get? (s : Store) (key : String) : Option Entry := s.working.get? key

/-- Fails if an operation is unavailable. -/
def require (op : StoreOperation) : StoreAction Unit := do
  let s ← ExceptT.lift Action.get
  if op ∈ s.unavailable then throw (.storage (op.name ++ " failed"))

/-- Puts an entry under a key. -/
def set (key : String) (entry : Entry) : StoreAction Unit := do
  require .set
  ExceptT.lift (.modify fun s => { s with working := s.working.put key entry })

/-- Removes a key. -/
def remove (key : String) : StoreAction Unit := do
  require .remove
  ExceptT.lift (.modify fun s => { s with working := s.working.erase key })

/-- Goes back to the last snapshot. -/
def load : StoreAction Unit := do
  require .load
  ExceptT.lift (.modify fun s => { s with working := s.persisted })

/-- Makes a snapshot. -/
def persist (now : Time) : StoreAction Unit := do
  require .persist
  ExceptT.lift (.modify fun s => { s with persisted := s.working, persistedAt := some now })
  let s ← ExceptT.lift Action.get
  ExceptT.lift (.notify (.log .debug "persisted repository state"))
  ExceptT.lift (.notify (.flushed s.persisted.length))

end Store

end FlagReplica
