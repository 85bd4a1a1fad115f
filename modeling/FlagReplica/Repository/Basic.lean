import FlagReplica.Store
/-!
# The repository

The replica of what the control plane holds: flags and segments, each under its own key and once
more in the list of its environment. Without a store the cache holds all there is. With a store, the
store does, and the cache holds copies that are dropped when the entry is written.

`Repository.stored?` says what is held under a key, whichever of the two holds it.
-/

namespace FlagReplica

/-- The replica. -/
structure Repository where
  cache : Cache String Entry
  store : Option Store
  /-- How often the clock has been read. -/
  clock : Time
  deriving Repr

/-- What is done to a repository and cannot fail. -/
abbrev RepositoryAction := Action Notice Repository

/-- What is done to a repository and fails if the store does. -/
abbrev RepositoryWrite := ExceptT Error RepositoryAction

namespace Repository

/-- How many entries are cached unless said otherwise. -/
def defaultCacheCapacity : Nat := 10000

/-- A repository without entries and without a store. -/
def empty (capacity : Nat) : Repository := ⟨.empty capacity, none, 0⟩

/-- A repository over a store, with nothing cached. -/
def withStore (capacity : Nat) (store : Store) : Repository := ⟨.empty capacity, some store, 0⟩

/-- The repository with an empty cache, over the same store. -/
def reopen (capacity : Nat) (r : Repository) : Repository := { r with cache := .empty capacity }

/-- Whether there is a store. -/
def hasStore (r : Repository) : Bool := r.store.isSome

/-- What is held under a key. -/
def stored? (r : Repository) (key : String) : Option Entry :=
  match r.store with
  | some s => s.get? key
  | none => r.cache.peek? key

/-- Writes a line to the log. -/
def log (level : Level) (text : String) : RepositoryAction Unit := .notify (.log level text)

/-- Tells of a change. -/
def changed (c : Change) : RepositoryAction Unit := .notify (.changed c)

/-- Reads the clock. -/
def readClock : RepositoryAction Time :=
  .modifyGet fun r => (r.clock + 1, { r with clock := r.clock + 1 })

/-- Works on the cache. -/
def onCache {α : Type} (f : Cache String Entry → α × Cache String Entry) : RepositoryAction α :=
  .modifyGet fun r => ((f r.cache).1, { r with cache := (f r.cache).2 })

/-- Works on the store, if there is one. -/
def onStore (a : StoreAction Unit) : RepositoryWrite Unit := ExceptT.mk fun r =>
  match r.store with
  | none => ⟨.ok (), r, []⟩
  | some s =>
    let o := a.run s
    ⟨o.value, { r with store := some o.state }, o.notices⟩

/-- Looks a key up in the cache, or else in the store, and then keeps a copy. -/
def lookUp (key : String) : RepositoryAction (Option Entry) := do
  match ← onCache (Cache.get key) with
  | some entry => return some entry
  | none =>
    match (← Action.get).store.bind (·.get? key) with
    | none => return none
    | some entry =>
      onCache fun c => ((), c.fill key entry)
      return some entry

/-- The repository as it is. -/
def state : RepositoryWrite Repository := ExceptT.lift .get

/-- Holds an entry under a key, and says whether that was a change. -/
def put (key : String) (entry : Entry) : RepositoryWrite Bool := do
  let r ← state
  if r.store.isNone then
    let now ← ExceptT.lift readClock
    ExceptT.lift (onCache (Cache.set now key entry))
  else if r.stored? key = some entry then return false
  else
    onStore (Store.set key entry)
    let now ← ExceptT.lift readClock
    ExceptT.lift (onCache fun c => ((), c.invalidate now key))
    return true

/-- Drops what is held under a key, and says whether that was a change. -/
def remove (key : String) : RepositoryWrite Bool := do
  let r ← state
  if r.store.isNone then
    let now ← ExceptT.lift readClock
    return (← ExceptT.lift (onCache (Cache.remove now key))).isSome
  else if (r.stored? key).isNone then return false
  else
    onStore (Store.remove key)
    let now ← ExceptT.lift readClock
    ExceptT.lift (onCache fun c => ((), c.invalidate now key))
    return true

/-- Goes back to what the store last persisted. -/
def load : RepositoryWrite Unit := do
  let r ← state
  if r.store.isSome then
    onStore Store.load
    let now ← ExceptT.lift readClock
    ExceptT.lift (onCache fun c => ((), c.purge now))

/-- Whether nothing changed since the store last persisted. -/
def isPersisted (updatedAt : Time) (s : Store) : Bool :=
  match s.persistedAt with
  | some persistedAt => updatedAt ≤ persistedAt
  | none => false

/-- Has the store persist if anything changed since it last did, and says whether that
was needed. -/
def persistIfChanged : RepositoryWrite Bool := do
  let r ← state
  match r.store, r.cache.updatedAt with
  | some s, some updatedAt =>
    if isPersisted updatedAt s then
      ExceptT.lift (log .trace "repository unchanged since last persist")
      return false
    else
      let now ← ExceptT.lift readClock
      onStore (Store.persist now)
      return true
  | _, _ => return false

end Repository

end FlagReplica
