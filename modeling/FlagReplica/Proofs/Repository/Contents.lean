import FlagReplica.Proofs.Repository.Keys
import Mathlib.Logic.Function.Basic
/-!
# What a repository holds

`Contents` is a repository without its insides: what is held under each key, and nothing of where it
is held or what is cached. The operations of the repository are stated here once more on contents
alone, so that what they do can be said without a word on stores, capacities or recency.
`Proofs.Repository.Refinement` shows that a repository with room for what is written does the same.

Each write says what it does to the contents by one equation: `state_setOne`, `state_deleteOne` and
so on.
-/

namespace FlagReplica

/-- What is held under each key. -/
abbrev Contents := String → Option Entry

/-- What is done to contents. -/
abbrev ContentsAction := Action Notice Contents

namespace Contents

open Record (kind identifier version)
open Repository (entityKey listKey isOutdated missingFrom merged?)

variable {α : Type} [Record α]

/-- The contents of a repository in which nothing is held. -/
def nothing : Contents := fun _ => none

/-- The thing of an identifier. -/
def find? (held : Contents) (id : String) : Option α :=
  (held (entityKey α id)).bind Record.ofEntry?

/-- The list of an environment, empty if there is none. -/
def listed (held : Contents) (env : String) : List α :=
  ((held (listKey α env)).bind Record.ofListing?).getD []

/-! ## Operations -/

/-- Writes a line to the log. -/
def log (level : Level) (text : String) : ContentsAction Unit := .notify (.log level text)

/-- Holds an entry under a key, and tells of it if that is a change. -/
def put (key : String) (entry : Entry) (c : Change) : ContentsAction Unit := fun held =>
  ⟨(), Function.update held key (some entry),
    if held key = some entry then [] else [.changed c]⟩

/-- Holds nothing under a key, and tells of it if that is a change. -/
def drop (key : String) (c : Change) : ContentsAction Unit := fun held =>
  ⟨(), Function.update held key none, if held key = none then [] else [.changed c]⟩

/-- Stores a single thing. -/
def setOne (x : α) (initial : Bool) : ContentsAction Unit := do
  let held ← Action.get
  if isOutdated initial (held (entityKey α (identifier x))) (version x) then
    log .trace "discarding write of outdated version"
  else put (entityKey α (identifier x)) (Record.toEntry x) (.stored (kind α) (identifier x))

/-- Deletes a single thing. -/
def deleteOne (α : Type) [Record α] (id : String) : ContentsAction Unit :=
  drop (entityKey α id) (.deleted (kind α) id)

/-- Stores the list of an environment, and each thing in it. -/
def setAll (env : String) (xs : List α) (initial : Bool) : ContentsAction Unit := do
  let held ← Action.get
  if isOutdated initial (held (listKey α env)) (newest (xs.map version)) then
    log .trace "discarding list write of outdated version"
  else
    put (listKey α env) (Record.toListing xs) (.listStored (kind α) env)
    xs.forM fun x => setOne x initial
    if initial then
      (missingFrom xs (held.listed env)).forM fun old => deleteOne α (identifier old)

/-- Puts a single thing into the list of an environment. -/
def merge (env : String) (x : α) : ContentsAction Unit := do
  match merged? x ((← Action.get).listed env) with
  | none => pure ()
  | some xs => put (listKey α env) (Record.toListing xs) (.listStored (kind α) env)

/-- Takes an identifier off the list of an environment. -/
def removeFrom (α : Type) [Record α] (env id : String) : ContentsAction Unit := do
  match ((← Action.get) (listKey α env)).bind (Record.ofListing? (α := α)) with
  | none => pure ()
  | some xs =>
    let kept := xs.filter fun x => identifier x ≠ id
    if kept.length ≠ xs.length then
      put (listKey α env) (Record.toListing kept) (.removed (kind α) env id)

/-! ## What they do to the contents -/

/-- What is read is what is held. -/
theorem run_read {β : Type} (f : Contents → ContentsAction β) (held : Contents) :
    (Action.get >>= f).run held = (f held).run held := rfl

theorem state_setOne (x : α) (initial : Bool) (held : Contents) :
    ((setOne x initial).run held).state =
      if isOutdated initial (held (entityKey α (identifier x))) (version x) then held
      else Function.update held (entityKey α (identifier x)) (some (Record.toEntry x)) := by
  rw [setOne, run_read]
  by_cases hold : isOutdated initial (held (entityKey α (identifier x))) (version x)
  · rw [if_pos hold, if_pos hold]
    rfl
  · rw [if_neg hold, if_neg hold]
    rfl

@[simp] theorem state_deleteOne (id : String) (held : Contents) :
    ((deleteOne α id).run held).state = Function.update held (entityKey α id) none := rfl

theorem state_merge (env : String) (x : α) (held : Contents) :
    ((merge env x).run held).state =
      match merged? x (held.listed env) with
      | none => held
      | some xs => Function.update held (listKey α env) (some (Record.toListing xs)) := by
  rw [merge, run_read]
  split <;> rfl

theorem state_removeFrom (env id : String) (held : Contents) :
    ((removeFrom α env id).run held).state =
      match (held (listKey α env)).bind (Record.ofListing? (α := α)) with
      | none => held
      | some xs =>
        if (xs.filter fun x => identifier x ≠ id).length ≠ xs.length then
          Function.update held (listKey α env)
            (some (Record.toListing (xs.filter fun x => identifier x ≠ id)))
        else held := by
  rw [removeFrom, run_read]
  split
  · rfl
  · next xs _ =>
    by_cases hkept : (xs.filter fun x => identifier x ≠ id).length ≠ xs.length
    · simp only [if_pos hkept]
      rfl
    · simp only [if_neg hkept]
      rfl

end Contents

end FlagReplica
