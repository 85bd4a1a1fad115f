import FlagReplica.Json.Decode
/-!
# What decoders make

A decoder `Makes` a value if it returns the value for some document. What it makes is made of what
its parts make: the items of a list (`Makes.of_list`), and the fields of a record, unless they are
missing and something stands for them (`Makes.exists_fields`). So whatever the decoders of the parts
see to holds of all that is decoded, in whatever order the members of an object stand, and for the
sequences that are read as records too.
-/

namespace FlagReplica

namespace Decode

variable {α β : Type} {src : Source} {d : Document} {x : α} {y : β} {dec : Decoder α}

/-! ## Steps that may fail -/

/-- Two steps succeed if the first does, and the second on what it returned. -/
theorem exists_of_bind_eq_ok {ε : Type} {m : Except ε α} {f : α → Except ε β}
    (h : m.bind f = .ok y) : ∃ x, m = .ok x ∧ f x = .ok y := by
  cases m with
  | error fault => cases h
  | ok x => exact ⟨x, rfl, h⟩

theorem exists_of_map_eq_ok {m : Except Fault α} {f : α → β} (h : f <$> m = .ok y) :
    ∃ x, m = .ok x ∧ f x = y := by
  cases m with
  | error fault => cases h
  | ok x => exact ⟨x, rfl, Except.ok.inj h⟩

/-- Passing over a value leaves everything as it was. -/
theorem eq_of_skip {x x' : α} (h : (do skip d; return x) = .ok x') : x' = x := by
  obtain ⟨-, -, h⟩ := exists_of_bind_eq_ok h
  exact (Except.ok.inj h).symm

/-- Something else than what was expected is never taken for it. -/
theorem wrongType_ne_ok {expected : String} : wrongType d expected ≠ .ok x := by
  cases d with
  | number n =>
    cases n with
    | int i => exact nofun
    | real r =>
      rw [wrongType]
      split <;> exact nofun
  | _ => exact nofun

/-! ## Single values and lists -/

/-- The decoder returns the value for some document. -/
def Makes (dec : Decoder α) (x : α) : Prop := ∃ src d, dec src d = .ok x

theorem Makes.of_text {s : String} (h : text dec s = .ok x) : Makes dec x := by
  rw [text] at h
  generalize Document.read s.toList = read at h
  obtain ⟨d, left⟩ := read
  obtain ⟨y, hdec, h⟩ := exists_of_bind_eq_ok h
  -- what stands after the value is no part of what was decoded
  have hxy : y = x := by
    cases left with
    | none => cases h
    | some left =>
      change (if _ then Except.ok y else flaw .malformed) = _ at h
      split at h
      · exact Except.ok.inj h
      · cases h
  exact ⟨_, d, hxy ▸ hdec⟩

theorem Makes.of_value {j : Json} (h : value dec j = .ok x) : Makes dec x := ⟨.value, _, h⟩

theorem Makes.exists_of_map {f : α → β} (h : Makes (fun src d => f <$> dec src d) y) :
    ∃ x, Makes dec x ∧ f x = y := by
  obtain ⟨src, d, h⟩ := h
  obtain ⟨x, hdec, hx⟩ := exists_of_map_eq_ok h
  exact ⟨x, ⟨src, d, hdec⟩, hx⟩

theorem makes_of_mem_items {ds : List Document} {xs : List α} (h : items dec src ds = .ok xs) :
    ∀ x ∈ xs, Makes dec x := by
  induction ds generalizing xs with
  | nil =>
    cases h
    exact fun x hx => absurd hx List.not_mem_nil
  | cons d ds ih =>
    obtain ⟨x, hdec, h⟩ := exists_of_bind_eq_ok h
    obtain ⟨rest, hitems, h⟩ := exists_of_bind_eq_ok h
    cases h
    intro z hz
    rcases List.mem_cons.mp hz with rfl | hz
    · exact ⟨src, d, hdec⟩
    · exact ih hitems z hz

/-- **Each item of a list was made by the decoder of items.** -/
theorem Makes.of_list {xs : List α} (h : Makes (list dec) xs) : ∀ x ∈ xs, Makes dec x := by
  obtain ⟨src, d, h⟩ := h
  cases d with
  | array ds ending =>
    obtain ⟨src', -, h⟩ := exists_of_bind_eq_ok h
    obtain ⟨ys, hitems, h⟩ := exists_of_bind_eq_ok h
    obtain ⟨-, -, h⟩ := exists_of_bind_eq_ok h
    cases h
    exact makes_of_mem_items hitems
  | number n => exact absurd h wrongType_ne_ok
  | _ => cases h

/-! ## Records -/

/-- The value stands for a field that is missing. -/
def Absent.Gives : Absent α → α → Prop
  | .required, _ => False
  | .default x, y => x = y
  | .named x, y => x = y

namespace Fields

/-- What is in the slots was made by the decoders of the fields. -/
def Filled : {α : Type} → (fs : Fields α) → fs.Slots → Prop
  | _, .nil, _ => True
  | _, .cons _ dec _ rest, slots => (∀ x ∈ slots.1, Makes dec x) ∧ rest.Filled slots.2

/-- Each field was made by its decoder, or is what stands for it where it is missing. -/
def Made : {α : Type} → Fields α → α → Prop
  | _, .nil, _ => True
  | _, .cons _ dec absent rest, x => (Makes dec x.1 ∨ absent.Gives x.1) ∧ rest.Made x.2

variable {fs : Fields α} {slots slots' : fs.Slots}

theorem filled_noSlots (fs : Fields α) : fs.Filled fs.noSlots := by
  induction fs with
  | nil => trivial
  | cons name dec absent rest ih => exact ⟨nofun, ih⟩

theorem Filled.readMember {name : String} (h : fs.Filled slots)
    (hread : fs.readMember src name d slots = .ok slots') : fs.Filled slots' := by
  induction fs with
  | nil => trivial
  | cons field dec absent rest ih =>
    obtain ⟨slot, others⟩ := slots
    by_cases hname : name = field
    · -- the member is of this field, whose slot has to be free
      replace hread := (if_pos hname).symm.trans hread
      cases slot with
      | some x => cases hread
      | none =>
        obtain ⟨x, hdec, hread⟩ := exists_of_bind_eq_ok hread
        cases hread
        exact ⟨fun z hz => Option.some.inj hz ▸ ⟨src, d, hdec⟩, h.2⟩
    · replace hread := (if_neg hname).symm.trans hread
      obtain ⟨others', hothers, hread⟩ := exists_of_bind_eq_ok hread
      cases hread
      exact ⟨h.1, ih h.2 hothers⟩

theorem Filled.readMembers {ms : List (Label × Document)} (h : fs.Filled slots)
    (hread : fs.readMembers src ms slots = .ok slots') : fs.Filled slots' := by
  induction ms generalizing slots with
  | nil =>
    cases hread
    exact h
  | cons m ms ih =>
    obtain ⟨name, -, hread⟩ := exists_of_bind_eq_ok hread
    obtain ⟨mid, hmember, hread⟩ := exists_of_bind_eq_ok hread
    exact ih (h.readMember hmember) hread

theorem Filled.collect (h : fs.Filled slots) (hcollect : fs.collect slots = .ok x) :
    fs.Made x := by
  induction fs with
  | nil => trivial
  | cons name dec absent rest ih =>
    obtain ⟨slot, others⟩ := slots
    cases slot with
    | some z =>
      obtain ⟨xs, hothers, hcollect⟩ := exists_of_bind_eq_ok hcollect
      cases hcollect
      exact ⟨.inl (h.1 z rfl), ih h.2 hothers⟩
    | none =>
      cases absent with
      | required => cases hcollect
      | default z | named z =>
        obtain ⟨xs, hothers, hcollect⟩ := exists_of_bind_eq_ok hcollect
        cases hcollect
        exact ⟨.inr rfl, ih h.2 hothers⟩

theorem made_of_readItems {expected : String} {ending : Ending} {i : Nat}
    {ds rest : List Document} (h : fs.readItems src expected ending i ds = .ok (x, rest)) :
    fs.Made x := by
  induction fs generalizing i ds with
  | nil => trivial
  | cons name dec absent others ih =>
    cases ds with
    | nil =>
      obtain ⟨-, -, h⟩ := exists_of_bind_eq_ok h
      cases absent with
      | required | named z => cases h
      | default z =>
        obtain ⟨⟨xs, left⟩, hothers, h⟩ := exists_of_bind_eq_ok h
        cases h
        exact ⟨.inr rfl, ih hothers⟩
    | cons d ds =>
      obtain ⟨first, hdec, h⟩ := exists_of_bind_eq_ok h
      obtain ⟨⟨xs, left⟩, hothers, h⟩ := exists_of_bind_eq_ok h
      cases h
      exact ⟨.inl ⟨src, d, hdec⟩, ih hothers⟩

end Fields

/-- **Each field of a record was made by its decoder**, or is what stands for it where it is
missing, whether the record was an object or a sequence. -/
theorem Makes.exists_fields {name : String} {fs : Fields α} {build : α → β}
    (h : Makes (record name fs build) y) : ∃ x, fs.Made x ∧ build x = y := by
  obtain ⟨src, d, h⟩ := h
  cases d with
  | object ms ending =>
    obtain ⟨src', -, h⟩ := exists_of_bind_eq_ok h
    obtain ⟨slots, hread, h⟩ := exists_of_bind_eq_ok h
    obtain ⟨-, -, h⟩ := exists_of_bind_eq_ok h
    obtain ⟨x, hcollect, h⟩ := exists_of_bind_eq_ok h
    cases h
    exact ⟨x, (fs.filled_noSlots.readMembers hread).collect hcollect, rfl⟩
  | array ds ending =>
    obtain ⟨src', -, h⟩ := exists_of_bind_eq_ok h
    obtain ⟨⟨x, rest⟩, hread, h⟩ := exists_of_bind_eq_ok h
    obtain ⟨-, -, h⟩ := exists_of_bind_eq_ok h
    cases h
    exact ⟨x, Fields.made_of_readItems hread, rfl⟩
  | number n => exact absurd h wrongType_ne_ok
  | _ => cases h

theorem Makes.of_required (h : Makes dec x ∨ (Absent.required : Absent α).Gives x) : Makes dec x :=
  h.resolve_right id

/-- The items of a list that may be missing, and is empty then. -/
theorem Makes.of_listField {xs : List α}
    (h : Makes (list dec) xs ∨ (Absent.default []).Gives xs) : ∀ x ∈ xs, Makes dec x := by
  rcases h with h | rfl
  · exact h.of_list
  · exact fun x hx => absurd hx List.not_mem_nil

end Decode

end FlagReplica
