import FlagReplica.Cache
import Mathlib.Data.Finset.Card
/-!
# What a cache holds after an operation

Each operation of the cache, seen through `Cache.peek?`. Looking a key up changes nothing that is
held, and an invalidation drops its own key only. An insertion may push something out, so of an
arbitrary cache it can only be said that what is found afterwards was found before or was put in
(`eq_or_peek?_of_insert`). In a cache that fits a set of keys nothing is ever pushed out, and each
write is exactly that (`Fits.peek?_insert`).
-/

namespace FlagReplica

namespace Table

variable {κ α : Type} [DecidableEq κ]

theorem get?_isSome_iff (t : Table κ α) (k : κ) : (t.get? k).isSome ↔ k ∈ t.map (·.1) := by
  simp [get?, List.find?_isSome]

/-- What is found among the first entries is found. -/
theorem get?_of_get?_take {t : Table κ α} {n : Nat} {k : κ} {v : α}
    (h : get? (t.take n) k = some v) : t.get? k = some v := by
  obtain ⟨e, he, rfl⟩ := Option.map_eq_some_iff.mp h
  rw [get?, (List.take_prefix n t).find?_eq_some he, Option.map_some]

theorem keys_erase (t : Table κ α) (k : κ) :
    (t.erase k).map (·.1) = (t.map (·.1)).filter (· ≠ k) := by
  rw [erase, List.filter_map]
  rfl

theorem keys_put (t : Table κ α) (k : κ) (v : α) :
    (t.put k v).map (·.1) = k :: (t.map (·.1)).filter (· ≠ k) := by
  rw [put, List.map_cons, keys_erase]

end Table

namespace Cache

variable {κ α : Type} [DecidableEq κ] {c : Cache κ α} {k l : κ} {v : α} {now : Time}

@[simp] theorem peek?_touch : (c.touch now).peek? l = c.peek? l := rfl

/-! ## Any cache -/

theorem fst_get : (c.get k).1 = c.peek? k := by
  unfold get
  split
  · next h => exact h.symm
  · next h => exact h.symm

/-- Looking a key up changes nothing that is held. -/
theorem peek?_snd_get : (c.get k).2.peek? l = c.peek? l := by
  unfold get
  split
  · next v h =>
    change (c.entries.put k v).get? l = c.entries.get? l
    rw [Table.get?_put]
    split
    · next hl => rw [hl]; exact h.symm
    · rfl
  · rfl

/-- A look-up is not a change. -/
theorem updatedAt_snd_get : (c.get k).2.updatedAt = c.updatedAt := by
  unfold get
  split <;> rfl

/-- A copy that is filled in is not a change. -/
theorem updatedAt_fill : (c.fill k v).updatedAt = c.updatedAt := by
  unfold fill
  split <;> rfl

/-- An invalidation drops its own key and no other. -/
theorem peek?_invalidate : (c.invalidate now k).peek? l = if l = k then none else c.peek? l :=
  Table.get?_erase c.entries k l

/-- What is found after an insertion would be found as well if nothing were pushed out. -/
theorem peek?_of_insert {e : α} (h : (c.insert k v).peek? l = some e) :
    (if l = k then some v else c.peek? l) = some e := by
  have hput : (c.entries.put k v).get? l = some e := Table.get?_of_get?_take h
  rwa [Table.get?_put] at hput

/-- What is found after an insertion was put in, or was found before. -/
theorem eq_or_peek?_of_insert {e : α} (h : (c.insert k v).peek? l = some e) :
    (l = k ∧ e = v) ∨ c.peek? l = some e := by
  have hput := peek?_of_insert h
  split at hput
  · next hl => exact .inl ⟨hl, (Option.some.inj hput).symm⟩
  · exact .inr hput

/-- And the same of a copy that is filled in. -/
theorem eq_or_peek?_of_fill {e : α} (h : (c.fill k v).peek? l = some e) :
    (l = k ∧ e = v) ∨ c.peek? l = some e := by
  unfold fill at h
  split at h
  · exact .inr h
  · exact eq_or_peek?_of_insert h

/-! ## A cache with room -/

/-- The cache holds keys of a set only, and has room for all of them. -/
structure Fits (room : Finset κ) (c : Cache κ α) : Prop where
  nodup : c.keys.Nodup
  mem : ∀ k ∈ c.keys, k ∈ room
  card_le : room.card ≤ c.capacity

namespace Fits

variable {room : Finset κ}

omit [DecidableEq κ] in
theorem empty {capacity : Nat} (h : room.card ≤ max capacity 1) :
    Fits room (Cache.empty capacity : Cache κ α) where
  nodup := List.nodup_nil
  mem _ hk := absurd hk List.not_mem_nil
  card_le := h

theorem mem_of_peek? (hc : c.Fits room) (h : c.peek? k = some v) : k ∈ room := by
  have hsome : (c.entries.get? k).isSome := by simpa [peek?] using congrArg Option.isSome h
  exact hc.mem k ((Table.get?_isSome_iff c.entries k).mp hsome)

/-- What is put under a key of the set pushes nothing out. -/
theorem put (hc : c.Fits room) (hk : k ∈ room) (v : α) :
    Fits room { c with entries := c.entries.put k v } where
  nodup := by
    rw [keys, Table.keys_put, List.nodup_cons]
    exact ⟨by simp, hc.nodup.filter _⟩
  mem l hl := by
    rw [keys, Table.keys_put, List.mem_cons, List.mem_filter] at hl
    rcases hl with rfl | ⟨hl, -⟩
    · exact hk
    · exact hc.mem l hl
  card_le := hc.card_le

theorem length_le (hc : c.Fits room) : c.entries.length ≤ c.capacity := by
  calc c.entries.length = c.keys.length := (List.length_map _).symm
    _ = c.keys.toFinset.card := (List.toFinset_card_of_nodup hc.nodup).symm
    _ ≤ room.card := Finset.card_le_card fun l hl => hc.mem l (List.mem_toFinset.mp hl)
    _ ≤ c.capacity := hc.card_le

/-- So an insertion is a `Table.put`. -/
theorem insert_eq (hc : c.Fits room) (hk : k ∈ room) (v : α) :
    c.insert k v = { c with entries := c.entries.put k v } := by
  rw [insert, List.take_of_length_le (hc.put hk v).length_le]

theorem peek?_insert (hc : c.Fits room) (hk : k ∈ room) (v : α) :
    (c.insert k v).peek? l = if l = k then some v else c.peek? l := by
  rw [hc.insert_eq hk v]
  exact Table.get?_put c.entries k l v

omit [DecidableEq κ] in
theorem touch (hc : c.Fits room) : Fits room (c.touch now) := ⟨hc.nodup, hc.mem, hc.card_le⟩

theorem snd_get (hc : c.Fits room) : Fits room (c.get k).2 := by
  unfold get
  split
  · next v h => exact hc.put (hc.mem_of_peek? h) v
  · exact hc

theorem snd_remove (hc : c.Fits room) : Fits room (c.remove now k).2 := by
  unfold remove
  split
  · refine touch ⟨?_, fun l hl => ?_, hc.card_le⟩
    · rw [keys, Table.keys_erase]
      exact hc.nodup.filter _
    · rw [keys, Table.keys_erase] at hl
      exact hc.mem l (List.mem_filter.mp hl).1
  · exact hc

end Fits

theorem fst_remove : (c.remove now k).1 = c.peek? k := by
  unfold remove
  split
  · next h => exact h.symm
  · next h => exact h.symm

theorem peek?_snd_remove : (c.remove now k).2.peek? l = if l = k then none else c.peek? l := by
  unfold remove
  split
  · exact Table.get?_erase c.entries k l
  · next h =>
    split
    · next hl => rw [hl]; exact h
    · rfl

section Set

variable [BEq α] [LawfulBEq α]

theorem fst_set [DecidableEq α] : (c.set now k v).1 = decide (c.peek? k ≠ some v) := by
  unfold set
  split <;> simp_all

theorem snd_set_of_eq (h : c.peek? k = some v) : (c.set now k v).2 = c := by
  rw [set, if_pos (beq_iff_eq.mpr h)]

theorem snd_set_of_ne (h : c.peek? k ≠ some v) :
    (c.set now k v).2 = (c.insert k v).touch now := by
  rw [set, if_neg fun hv => h (beq_iff_eq.mp hv)]

end Set

end Cache

end FlagReplica
