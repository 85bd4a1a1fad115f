/-!
# Tables

A table is a list of keys with their values, at most one to a key, looked up by the first. `put`
moves a key to the front, so the order of a table is that of its last writes.
-/

namespace FlagReplica

/-- Keys with their values. -/
abbrev Table (κ α : Type) := List (κ × α)

namespace Table

variable {κ α : Type} [DecidableEq κ]

/-- The value of a key. -/
def get? (t : Table κ α) (k : κ) : Option α := (t.find? (·.1 = k)).map (·.2)

/-- The table without a key. -/
def erase (t : Table κ α) (k : κ) : Table κ α := t.filter (·.1 ≠ k)

/-- The table with a value under a key, at the front. -/
def put (t : Table κ α) (k : κ) (v : α) : Table κ α := (k, v) :: t.erase k

@[simp] theorem get?_nil (k : κ) : get? ([] : Table κ α) k = none := rfl

theorem get?_cons (e : κ × α) (t : Table κ α) (k : κ) :
    get? (e :: t) k = if e.1 = k then some e.2 else get? t k := by
  by_cases h : e.1 = k <;> simp [get?, h]

/-- A key that was erased is gone, and the others stay. -/
theorem get?_erase (t : Table κ α) (k l : κ) :
    (t.erase k).get? l = if l = k then none else t.get? l := by
  induction t with
  | nil => simp [erase]
  | cons e t ih =>
    by_cases he : e.1 = k
    · have : erase (e :: t) k = erase t k := by simp [erase, he]
      rw [this, ih, get?_cons]
      split
      · rfl
      · rename_i h
        rw [if_neg]
        rintro rfl
        exact h he
    · have : erase (e :: t) k = e :: erase t k := by simp [erase, he]
      rw [this, get?_cons, get?_cons, ih]
      split
      · rename_i h
        rw [if_neg]
        rintro rfl
        exact he h
      · rfl

/-- A key holds what was put there last. -/
theorem get?_put (t : Table κ α) (k l : κ) (v : α) :
    (t.put k v).get? l = if l = k then some v else t.get? l := by
  rw [put, get?_cons, get?_erase]
  by_cases h : l = k
  · simp [h]
  · have : ¬ k = l := fun hk => h hk.symm
    simp [h, this]

end Table

end FlagReplica
