import FlagReplica.Repository.Records
import Mathlib.Data.List.Nodup
import Mathlib.Logic.Function.Basic
/-!
# Lists by identifier

A list of flags or segments is read as a table: the first thing of each identifier (`byName`). The
operations on lists that the repository uses are said here in terms of that table, a merge most of
all: it is refused exactly if the table has something as new (`merged?_eq_none_iff`), and otherwise
changes the table at one identifier (`byName_merged`).
-/

namespace FlagReplica

open Record (identifier version)

variable {α : Type} [Record α] {x y : α} {xs ys zs : List α} {id : String}

/-- The first thing of an identifier in a list. -/
def byName (xs : List α) (id : String) : Option α := xs.find? fun x => identifier x = id

theorem byName_cons (x : α) (xs : List α) (id : String) :
    byName (x :: xs) id = if identifier x = id then some x else byName xs id := by
  rw [byName, List.find?_cons]
  split
  · next h => rw [if_pos (by simpa using h)]
  · next h =>
    rw [if_neg (by simpa using h)]
    rfl

theorem identifier_of_byName (h : byName xs id = some x) : identifier x = id := by
  simpa using List.find?_some h

theorem byName_eq_none_iff : byName xs id = none ↔ id ∉ xs.map identifier := by
  simp [byName]

theorem mem_of_byName (h : byName xs id = some x) : x ∈ xs := List.mem_of_find?_eq_some h

/-- Where no identifier comes twice, the first thing of an identifier is the only one. -/
theorem byName_eq_some_iff (hxs : (xs.map identifier).Nodup) :
    byName xs id = some x ↔ x ∈ xs ∧ identifier x = id := by
  refine ⟨fun h => ⟨mem_of_byName h, identifier_of_byName h⟩, ?_⟩
  rintro ⟨hx, rfl⟩
  cases h : byName xs (identifier x) with
  | none => exact absurd (List.mem_map_of_mem hx) (byName_eq_none_iff.mp h)
  | some y =>
    have hy := identifier_of_byName h
    rw [List.inj_on_of_nodup_map hxs (mem_of_byName h) hx hy]

/-- To leave out an identifier is to leave out what it names. -/
theorem byName_filter (xs : List α) (id : String) :
    byName (xs.filter fun x => identifier x ≠ id) = Function.update (byName xs) id none := by
  funext id'
  rw [Function.update_apply]
  by_cases h : id' = id
  · rw [if_pos h, byName_eq_none_iff]
    subst h
    simp
  · rw [if_neg h, byName, byName, List.find?_filter]
    congr 1
    funext x
    by_cases hx : identifier x = id'
    · simp [hx, h]
    · simp [hx]

open Repository (merged? missingFrom)

/-- What is missing from a new list is what it has no name for. -/
theorem byName_missingFrom (new previous : List α) (id : String) :
    byName (missingFrom new previous) id =
      if byName new id = none then byName previous id else none := by
  rw [missingFrom, byName, List.find?_filter]
  by_cases h : byName new id = none
  · rw [if_pos h, byName]
    congr 1
    funext old
    by_cases hold : identifier old = id
    · rw [byName_eq_none_iff] at h
      simpa [hold] using h
    · simp [hold]
  · rw [if_neg h]
    rw [byName_eq_none_iff, not_not, List.mem_map] at h
    obtain ⟨x, hx, rfl⟩ := h
    -- the new list has the identifier, so nothing of it is missing
    rw [List.find?_eq_none]
    intro old _ hold
    simp only [Bool.not_eq_eq_eq_not, Bool.not_true, List.any_eq_false, decide_eq_true_eq,
      Bool.decide_and, Bool.and_eq_true] at hold
    exact hold.1 x hx hold.2.symm

/-! ## Merges -/

/-- A merge is refused exactly if the one of the same identifier is as new. -/
theorem merged?_eq_none_iff :
    merged? x ys = none ↔ (byName ys (identifier x)).any (version x ≤ version ·) := by
  induction ys with
  | nil => simp [merged?, byName]
  | cons y ys ih =>
    rw [merged?, byName_cons]
    by_cases hy : identifier y = identifier x
    · rw [if_pos hy, if_pos hy]
      simp
    · rw [if_neg hy, if_neg hy, Option.map_eq_none_iff, ih]

theorem byName_merged (h : merged? x ys = some zs) :
    byName zs = Function.update (byName ys) (identifier x) (some x) := by
  funext id
  rw [Function.update_apply]
  induction ys generalizing zs with
  | nil =>
    cases h
    rw [byName_cons]
    exact if_congr eq_comm rfl rfl
  | cons y ys ih =>
    rw [merged?] at h
    split at h
    · next hy =>
      split at h
      · cases h
      · cases h
        rw [byName_cons, byName_cons, hy]
        by_cases hid : identifier x = id
        · rw [if_pos hid, if_pos hid.symm]
        · rw [if_neg hid, if_neg hid, if_neg (Ne.symm hid)]
    · next hy =>
      obtain ⟨zs', hzs', rfl⟩ := Option.map_eq_some_iff.mp h
      rw [byName_cons, byName_cons, ih hzs']
      by_cases hid : identifier y = id
      · rw [if_pos hid, if_pos hid, if_neg (hid ▸ hy)]
      · rw [if_neg hid, if_neg hid]

/-- A merge adds an identifier at the end, or none. -/
theorem map_identifier_merged (h : merged? x ys = some zs) :
    zs.map identifier =
      if identifier x ∈ ys.map identifier then ys.map identifier
      else ys.map identifier ++ [identifier x] := by
  induction ys generalizing zs with
  | nil =>
    cases h
    simp
  | cons y ys ih =>
    rw [merged?] at h
    split at h
    · next hy =>
      split at h
      · cases h
      · cases h
        simp [hy]
    · next hy =>
      obtain ⟨zs', hzs', rfl⟩ := Option.map_eq_some_iff.mp h
      rw [List.map_cons, ih hzs', List.map_cons]
      by_cases hx : identifier x ∈ ys.map identifier
      · rw [if_pos hx, if_pos (List.mem_cons_of_mem _ hx)]
      · rw [if_neg hx, if_neg (by simpa [Ne.symm hy] using hx), List.cons_append]

theorem nodup_merged (hys : (ys.map identifier).Nodup) (h : merged? x ys = some zs) :
    (zs.map identifier).Nodup := by
  rw [map_identifier_merged h]
  split
  · exact hys
  · next hx => exact hys.append (List.nodup_singleton _) (by simpa using hx)

end FlagReplica
