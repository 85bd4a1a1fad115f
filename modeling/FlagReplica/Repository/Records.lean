import FlagReplica.Repository.Basic
/-!
# Flags and segments in the repository

Reads and writes of single flags and segments and of the lists of environments. The two kinds share
every rule; `Record` says how a kind is stored.

**Versions.** A write that is not an initial load is discarded unless it is newer than what is
there. A list is as new as its newest member. An initial load is authoritative: it replaces the
list, and what the list no longer holds is deleted.
-/

namespace FlagReplica

/-- How a kind of thing is stored. -/
class Record (α : Type) where
  kind : EntityKind
  identifier : α → String
  version : α → Int64
  toEntry : α → Entry
  ofEntry? : Entry → Option α
  toListing : List α → Entry
  ofListing? : Entry → Option (List α)

instance : Record Flag where
  kind := .flag
  identifier f := f.feature
  version f := f.version
  toEntry := .flag
  ofEntry? := fun | .flag f => some f | _ => none
  toListing := .flags
  ofListing? := fun | .flags fs => some fs | _ => none

instance : Record Segment where
  kind := .segment
  identifier s := s.identifier
  version s := s.version
  toEntry := .segment
  ofEntry? := fun | .segment s => some s | _ => none
  toListing := .segments
  ofListing? := fun | .segments ss => some ss | _ => none

namespace Repository

variable {α : Type} [Record α]

open Record (kind identifier version)

variable (α) in
/-- The key of a single thing. -/
def entityKey (id : String) : String := (Key.entity (kind α) id).text

variable (α) in
/-- The key of the list of an environment. -/
def listKey (env : String) : String := (Key.listing (kind α) env).text

/-- The thing of an identifier. -/
def get (id : String) : RepositoryAction (Option α) := do
  return (← lookUp (entityKey α id)).bind Record.ofEntry?

/-- The list of an environment, empty if there is none. -/
def getAll (env : String) : RepositoryAction (List α) := do
  return ((← lookUp (listKey α env)).bind Record.ofListing?).getD []

/-- Whether a write of a version is discarded in favour of what is there. -/
def isOutdated (initial : Bool) (current : Option Entry) (version : Int64) : Bool :=
  !initial && current.any fun e => version ≤ e.version

/-- Stores a single thing. -/
def setOne (x : α) (initial : Bool) : RepositoryWrite Unit := do
  let key := entityKey α (identifier x)
  let current := (← state).stored? key
  if isOutdated initial current (version x) then
    ExceptT.lift (log .trace "discarding write of outdated version")
  else if ← put key (Record.toEntry x) then
    changed (.stored (kind α) (identifier x))

/-- Deletes a single thing. -/
def deleteOne (α : Type) [Record α] (id : String) : RepositoryWrite Unit := do
  if ← remove (entityKey α id) then ExceptT.lift (changed (.deleted (kind α) id))

/-- Does something for each of some things, until it fails. -/
def forEach {β : Type} (f : β → RepositoryWrite Unit) : List β → RepositoryWrite Unit
  | [] => pure ()
  | x :: xs => do f x; forEach f xs

/-- Those of the previous list that the new one no longer holds. -/
def missingFrom (new previous : List α) : List α :=
  previous.filter fun old => !new.any fun x => identifier x = identifier old

/-- Stores the list of an environment, and each thing in it. -/
def setAll (env : String) (xs : List α) (initial : Bool) : RepositoryWrite Unit := do
  let key := listKey α env
  let current := (← state).stored? key
  if isOutdated initial current (newest (xs.map version)) then
    ExceptT.lift (log .trace "discarding list write of outdated version")
  else
    let previous := (current.bind Record.ofListing?).getD []
    if ← put key (Record.toListing xs) then ExceptT.lift (changed (.listStored (kind α) env))
    forEach (fun x => setOne x initial) xs
    if initial then
      forEach (fun old => deleteOne α (identifier old)) (missingFrom xs previous)

/-- A list with a thing in the place of the first one of its identifier, or at the end. There is
none if the one in its place is as new. -/
def merged? (x : α) : List α → Option (List α)
  | [] => some [x]
  | y :: ys =>
    if identifier y = identifier x then
      if version x ≤ version y then none else some (x :: ys)
    else (merged? x ys).map (y :: ·)

/-- Puts a single thing into the list of an environment. -/
def merge (env : String) (x : α) : RepositoryWrite Unit := do
  let key := listKey α env
  let current := (← state).stored? key
  match merged? x ((current.bind Record.ofListing?).getD []) with
  | none => pure ()
  | some xs =>
    if ← put key (Record.toListing xs) then ExceptT.lift (changed (.listStored (kind α) env))

/-- Takes an identifier off the list of an environment. -/
def removeFrom (α : Type) [Record α] (env id : String) : RepositoryWrite Unit := do
  let key := listKey α env
  let current := (← state).stored? key
  match current.bind (Record.ofListing? (α := α)) with
  | none => pure ()
  | some xs =>
    let kept := xs.filter fun x => identifier x ≠ id
    if kept.length ≠ xs.length then
      if ← put key (Record.toListing kept) then ExceptT.lift (changed (.removed (kind α) env id))

/-! ## By name -/

/-- The flag of an identifier. -/
def getFlag (id : String) : RepositoryAction (Option Flag) := get id

/-- The flags of an environment. -/
def getFlags (env : String) : RepositoryAction (List Flag) := getAll env

/-- The segment of an identifier. -/
def getSegment (id : String) : RepositoryAction (Option Segment) := get id

/-- The segments of an environment. -/
def getSegments (env : String) : RepositoryAction (List Segment) := getAll env

/-- Stores a flag. -/
def setFlag (f : Flag) (initial : Bool) : RepositoryWrite Unit := setOne f initial

/-- Stores the flags of an environment. -/
def setFlags (env : String) (fs : List Flag) (initial : Bool) : RepositoryWrite Unit :=
  setAll env fs initial

/-- Puts a flag into the list of an environment. -/
def mergeFlag (env : String) (f : Flag) : RepositoryWrite Unit := merge env f

/-- Deletes a flag. -/
def deleteFlag (id : String) : RepositoryWrite Unit := deleteOne Flag id

/-- Takes a flag off the list of an environment. -/
def deleteFlags (env id : String) : RepositoryWrite Unit := removeFrom Flag env id

/-- Stores a segment. -/
def setSegment (s : Segment) (initial : Bool) : RepositoryWrite Unit := setOne s initial

/-- Stores the segments of an environment. -/
def setSegments (env : String) (ss : List Segment) (initial : Bool) : RepositoryWrite Unit :=
  setAll env ss initial

/-- Puts a segment into the list of an environment. -/
def mergeSegment (env : String) (s : Segment) : RepositoryWrite Unit := merge env s

/-- Deletes a segment. -/
def deleteSegment (id : String) : RepositoryWrite Unit := deleteOne Segment id

/-- Takes a segment off the list of an environment. -/
def deleteSegments (env id : String) : RepositoryWrite Unit := removeFrom Segment env id

end Repository

end FlagReplica
