import FlagReplica.Proofs.Json.Locality
import FlagReplica.Proofs.Json.Provenance
import Mathlib.Data.List.DropRight
import Mathlib.Data.List.Forall2
/-!
# The elements of an array

The text of an array is made of the texts of its elements, and what is read of it is made of what is
read of each of them alone (`reads_array`). So nothing of one element is taken for a part of another
one, whatever they hold.

The lists that are decoded from such a text are spoken of by the texts of the elements: an element
is decoded on its own exactly if its document is, from a source that allows as many levels of
brackets as there are (`text_eq_ok_iff`).
-/

namespace FlagReplica

/-- The text is that of an array, and these are the texts of its elements: they stand in brackets,
with commas between them. Blanks around an element belong to its text. There may be others before
and after the array, and where an empty one has none. -/
def Json.IsArrayOf (elements : List String) (s : String) : Prop :=
  ∃ before inside after : String,
    (∀ c ∈ before.toList ++ inside.toList ++ after.toList, Document.isBlank c) ∧
      s = before ++ "[" ++ inside ++ String.intercalate "," elements ++ "]" ++ after

namespace Document

variable {cs rest tail after blanks : List Char} {d : Document} {fuel : Nat}

/-- The text holds one document and nothing else. -/
def Reads (cs : List Char) (d : Document) : Prop :=
  ∃ rest, read cs = (d, some rest) ∧ skipBlanks rest = []

theorem Reads.unique {d' : Document} (h : Reads cs d) (h' : Reads cs d') : d = d' := by
  obtain ⟨rest, hread, -⟩ := h
  obtain ⟨rest', hread', -⟩ := h'
  rw [hread] at hread'
  exact congrArg Prod.fst hread'

/-! ## Blanks -/

theorem skipBlanks_of_blank (h : skipBlanks blanks = []) (tail : List Char) :
    skipBlanks (blanks ++ tail) = skipBlanks tail := by
  unfold skipBlanks at h ⊢
  rw [List.dropWhile_append, h]
  rfl

theorem readValue_blanks (h : skipBlanks blanks = []) (tail : List Char) :
    readValue fuel (blanks ++ tail) = readValue fuel tail := by
  cases fuel with
  | zero => rfl
  | succ fuel =>
    unfold readValue
    rw [skipBlanks_of_blank h]

theorem readItems_blanks (h : skipBlanks blanks = []) (first : Bool) (tail : List Char) :
    readItems fuel first (blanks ++ tail) = readItems fuel first tail := by
  cases fuel with
  | zero => rfl
  | succ fuel =>
    unfold readItems
    rw [skipBlanks_of_blank h]

/-- Blanks before an item make no difference. -/
theorem readItem_skipBlanks (fuel : Nat) (cs : List Char) :
    readItem fuel (skipBlanks cs) = readItem fuel cs := by
  cases fuel with
  | zero => rfl
  | succ fuel =>
    have hvalue : readValue fuel (skipBlanks cs) = readValue fuel cs := by
      cases fuel with
      | zero => rfl
      | succ fuel =>
        unfold readValue skipBlanks
        rw [List.dropWhile_idempotent]
    unfold readItem
    rw [hvalue]

/-! ## Elements -/

/-- A text that holds a document starts with something that is not a bracket that closes. -/
theorem Reads.head (h : Reads cs d) : ∃ c more, skipBlanks cs = c :: more ∧ c ≠ ']' := by
  obtain ⟨rest, hread, -⟩ := h
  unfold read readValue at hread
  cases hskip : skipBlanks cs with
  | nil =>
    rw [hskip] at hread
    cases hread
  | cons c more =>
    refine ⟨c, more, rfl, ?_⟩
    rintro rfl
    rw [hskip] at hread
    cases hread

/-- The first item starts where the blanks after the bracket end. -/
theorem readItems_first {c : Char} {more : List Char} (hskip : skipBlanks cs = c :: more)
    (hclose : c ≠ ']') : readItems (fuel + 1) true cs = readItem fuel cs := by
  rw [← readItem_skipBlanks fuel cs, hskip]
  unfold readItems
  rw [hskip]
  exact if_neg hclose

/-- The next item starts after a comma. -/
theorem readItems_next {c : Char} {more : List Char} (hskip : skipBlanks cs = c :: more) :
    readItems (fuel + 1) false (',' :: cs) = readItem fuel cs := by
  rw [← readItem_skipBlanks fuel cs, hskip]
  unfold readItems
  rw [skipBlanks_cons (by decide)]
  dsimp only
  rw [if_neg (by decide), if_neg (by decide), if_pos rfl, hskip]

/-- **An element is read as it is alone**, if a comma or a bracket follows it. -/
theorem Reads.readValue (h : Reads cs d) (htail : Stops tail) (hfuel : 3 * cs.length + 3 ≤ fuel) :
    ∃ blanks, Document.readValue fuel (cs ++ tail) = (d, some (blanks ++ tail)) ∧
      skipBlanks blanks = [] := by
  obtain ⟨rest, hread, hblank⟩ := h
  exact ⟨rest, readValue_append hread hfuel fun _ => htail, hblank⟩

/-- So does a text that goes on with other elements. -/
theorem Reads.head_elements {e : List Char} (he : Reads e d) (es : List (List Char))
    (tail : List Char) :
    ∃ c more, skipBlanks (List.intercalate [','] (e :: es) ++ tail) = c :: more ∧ c ≠ ']' := by
  obtain ⟨c, more, hskip, hclose⟩ := he.head
  obtain ⟨others, hothers⟩ : ∃ others, List.intercalate [','] (e :: es) = e ++ others := by
    cases es with
    | nil => exact ⟨[], by rw [List.intercalate_singleton, List.append_nil]⟩
    | cons e' es => exact ⟨_, by rw [List.intercalate_cons_cons, List.append_assoc]⟩
  refine ⟨c, more ++ (others ++ tail), ?_, hclose⟩
  rw [hothers, List.append_assoc]
  exact skipBlanks_append hskip

/-- **Elements are read one after the other**, each as it is alone. -/
theorem readItem_elements {e : List Char} {es : List (List Char)} {ds : List Document}
    (he : Reads e d) (hes : List.Forall₂ Reads es ds)
    (hfuel : 3 * (List.intercalate [','] (e :: es)).length + 4 ≤ fuel) :
    readItem fuel (List.intercalate [','] (e :: es) ++ ']' :: after) =
      (d :: ds, .closed, some after) := by
  induction hes generalizing e d fuel with
  | nil =>
    rw [List.intercalate_singleton] at hfuel ⊢
    obtain ⟨fuel, rfl⟩ : ∃ k, fuel = k + 2 := ⟨fuel - 2, by omega⟩
    have hstops : Stops (']' :: after) := .cons (.inr (.inl rfl))
    have hlast : 3 * e.length + 3 ≤ fuel + 1 := by omega
    obtain ⟨blanks, hvalue, hblank⟩ := he.readValue hstops hlast
    refine readItem_of_read hvalue ?_
    rw [readItems_blanks hblank]
    exact readItems_close fuel false after
  | @cons e' d' es ds he' hes ih =>
    rw [List.intercalate_cons_cons] at hfuel ⊢
    simp only [List.length_append, List.length_singleton] at hfuel
    obtain ⟨fuel, rfl⟩ : ∃ k, fuel = k + 2 := ⟨fuel - 2, by omega⟩
    have hthis : 3 * e.length + 3 ≤ fuel + 1 := by omega
    have hothers : 3 * (List.intercalate [','] (e' :: es)).length + 4 ≤ fuel := by omega
    have hnext := ih he' hothers
    obtain ⟨c, more, hskip, -⟩ := he'.head_elements es (']' :: after)
    have hstops : Stops (',' :: (List.intercalate [','] (e' :: es) ++ ']' :: after)) :=
      .cons (.inl rfl)
    obtain ⟨blanks, hvalue, hblank⟩ := he.readValue hstops hthis
    rw [List.append_assoc, List.append_assoc, List.singleton_append]
    refine readItem_of_read hvalue ?_
    rw [readItems_blanks hblank, readItems_next hskip]
    exact hnext

theorem readItems_elements {es : List (List Char)} {ds : List Document}
    (hes : List.Forall₂ Reads es ds)
    (hfuel : 3 * (List.intercalate [','] es).length + 5 ≤ fuel) :
    readItems fuel true (List.intercalate [','] es ++ ']' :: after) =
      (ds, .closed, some after) := by
  obtain ⟨fuel, rfl⟩ : ∃ k, fuel = k + 1 := ⟨fuel - 1, by omega⟩
  cases hes with
  | nil => exact readItems_close fuel true after
  | @cons e d es ds he hes =>
    obtain ⟨c, more, hskip, hclose⟩ := he.head_elements es (']' :: after)
    rw [readItems_first hskip hclose]
    exact readItem_elements he hes (by omega)

/-- **The text of an array holds the documents of its elements**, each as it is alone. -/
theorem reads_array {elements : List String} {s : String} {ds : List Document}
    (hs : Json.IsArrayOf elements s)
    (helements : List.Forall₂ (fun e d => Reads e.toList d) elements ds) :
    Reads s.toList (.array ds .closed) := by
  obtain ⟨before, inside, after, hblank, rfl⟩ := hs
  have hblanks (blanks : String)
      (h : ∀ c ∈ blanks.toList, c ∈ before.toList ++ inside.toList ++ after.toList) :
      skipBlanks blanks.toList = [] :=
    List.dropWhile_eq_nil_iff.mpr fun c hc => hblank c (h c hc)
  have hbefore : skipBlanks before.toList = [] := hblanks before (by simp_all)
  have hinside : skipBlanks inside.toList = [] := hblanks inside (by simp_all)
  have hafter : skipBlanks after.toList = [] := hblanks after (by simp_all)
  have htext : (before ++ "[" ++ inside ++ String.intercalate "," elements ++ "]" ++ after).toList =
      before.toList ++ '[' :: (inside.toList ++
        (List.intercalate [','] (elements.map String.toList) ++ ']' :: after.toList)) := by
    simp [String.toList_append, String.toList_intercalate]
  have hdocuments : List.Forall₂ Reads (elements.map String.toList) ds :=
    List.forall₂_map_left_iff.mpr helements
  refine ⟨after.toList, ?_, hafter⟩
  rw [htext, read, readValue_blanks hbefore]
  refine readValue_bracket ?_
  rw [readItems_blanks hinside]
  refine readItems_elements hdocuments ?_
  simp only [List.length_append, List.length_cons]
  omega

end Document

/-! ## Decoding -/

namespace Decode

variable {α : Type} {dec : Decoder α} {s : String} {x : α}

/-- A text is decoded if it holds one document, and that is. -/
theorem text_eq_ok_iff :
    text dec s = .ok x ↔ ∃ d, Document.Reads s.toList d ∧ dec (.text maxLevels) d = .ok x := by
  rw [text]
  constructor
  · intro h
    rcases hread : Document.read s.toList with ⟨d, left⟩
    rw [hread] at h
    obtain ⟨y, hdec, h⟩ := exists_of_bind_eq_ok h
    cases left with
    | none => cases h
    | some rest =>
      change (if _ then Except.ok y else flaw .malformed) = _ at h
      split at h
      · next hblank =>
        cases h
        exact ⟨d, ⟨rest, hread, List.isEmpty_iff.mp hblank⟩, hdec⟩
      · cases h
  · rintro ⟨d, ⟨rest, hread, hblank⟩, hdec⟩
    rw [hread]
    change ((dec (.text maxLevels) d).bind _) = _
    rw [hdec]
    change (if (Document.skipBlanks rest).isEmpty then Except.ok x else flaw .malformed) = _
    rw [hblank]
    rfl

end Decode

end FlagReplica
