import FlagReplica.Repository.Records
import Mathlib.Data.Finset.Card
/-!
# Keys

Four families of keys share one table. No text is a key of two of them, or of two identifiers of
one, whatever the identifiers hold (`Key.text_injective`), so what is said of one key is never said
of another by accident.

`LawfulRecord` says that a kind of thing is read as it was stored. `keysWritten` reads the keys that
were written off the notices: every write that changes something is told, and by its own key.
-/

namespace FlagReplica

/-- **No text is the key of two things.** -/
theorem Key.text_injective : Function.Injective Key.text := by
  intro a b h
  have hchars := congrArg String.toList h
  -- two families differ no later than at the first slash, before any identifier begins
  rcases a with ⟨_ | _, a⟩ | ⟨_ | _, a⟩ <;> rcases b with ⟨_ | _, b⟩ | ⟨_ | _, b⟩ <;>
    simp [Key.text, String.toList_append] at hchars <;>
    rw [String.toList_inj.mp hchars]

/-! ## Kinds of things -/

/-- A kind that is read as it was stored, with the version it was stored with. -/
class LawfulRecord (α : Type) [Record α] : Prop where
  ofEntry?_toEntry : ∀ x : α, Record.ofEntry? (Record.toEntry x) = some x
  ofListing?_toListing : ∀ xs : List α, Record.ofListing? (Record.toListing xs) = some xs
  version_toEntry : ∀ x : α, (Record.toEntry x).version = Record.version x
  version_toListing : ∀ xs : List α,
    (Record.toListing xs).version = newest (xs.map Record.version)

attribute [simp] LawfulRecord.ofEntry?_toEntry LawfulRecord.ofListing?_toListing
  LawfulRecord.version_toEntry LawfulRecord.version_toListing

instance : LawfulRecord Flag := ⟨fun _ => rfl, fun _ => rfl, fun _ => rfl, fun _ => rfl⟩

instance : LawfulRecord Segment := ⟨fun _ => rfl, fun _ => rfl, fun _ => rfl, fun _ => rfl⟩

namespace Repository

open Record (kind)

section Keys

variable (α β : Type) [Record α] [Record β]

@[simp] theorem entityKey_inj {a b : String} : entityKey α a = entityKey α b ↔ a = b := by
  simp [entityKey, Key.text_injective.eq_iff]

@[simp] theorem listKey_inj {a b : String} : listKey α a = listKey α b ↔ a = b := by
  simp [listKey, Key.text_injective.eq_iff]

@[simp] theorem entityKey_ne_listKey (a b : String) : entityKey α a ≠ listKey β b := by
  simp [entityKey, listKey, Key.text_injective.eq_iff]

@[simp] theorem listKey_ne_entityKey (a b : String) : listKey α a ≠ entityKey β b :=
  (entityKey_ne_listKey β α b a).symm

variable {α β}

theorem entityKey_ne_of_kind (h : kind α ≠ kind β) (a b : String) :
    entityKey α a ≠ entityKey β b := by
  simp [entityKey, Key.text_injective.eq_iff, h]

theorem listKey_ne_of_kind (h : kind α ≠ kind β) (a b : String) :
    listKey α a ≠ listKey β b := by
  simp [listKey, Key.text_injective.eq_iff, h]

end Keys

end Repository

/-! ## Keys that were written -/

/-- The key that a change wrote. A deletion writes none. -/
def Change.written? : Change → Option Key
  | .stored kind id => some (.entity kind id)
  | .listStored kind env => some (.listing kind env)
  | .removed kind env _ => some (.listing kind env)
  | .deleted _ _ => none

/-- The key that a notice tells was written, as a text. -/
def Notice.written? : Notice → Option String
  | .changed c => c.written?.map Key.text
  | _ => none

/-- The keys that notices tell were written. -/
def keysWritten (ns : List Notice) : Finset String := (ns.filterMap Notice.written?).toFinset

@[simp] theorem keysWritten_append (ns ms : List Notice) :
    keysWritten (ns ++ ms) = keysWritten ns ∪ keysWritten ms := by
  simp [keysWritten, List.filterMap_append]

theorem mem_keysWritten_changed {c : Change} {key : Key} (h : c.written? = some key) :
    key.text ∈ keysWritten [.changed c] := by
  simp [keysWritten, Notice.written?, h]

end FlagReplica
