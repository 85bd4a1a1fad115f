import FlagReplica.Proofs.Json.Reading
/-!
# What is encoded can be decoded

A decoder `Recovers` a value from the JSON it was encoded as if it decodes the document of that JSON
to the value, from whatever source allows as many levels of brackets as the JSON has. Then it does
so from the text of the JSON as well (`Recovers.text_render`).

There is a lemma for each piece that codecs are made of. For records the fields are gone through in
the order of the declaration, in which encoders write them: `Fields.Recovers` says field by field
what there is to decode, or that the field is left out and has a default.
-/

namespace FlagReplica

open Decode

namespace Decode

variable {α β γ : Type} {levels : Nat} {src : Source} {j : Json} {x : α} {dec : Decoder α}

/-! ## Sources -/

/-- So many levels of brackets may still be opened. -/
def Source.Allows (levels : Nat) : Source → Prop
  | .text n => levels ≤ n
  | .buffer | .kept | .value => True

theorem Source.allows_of_ne_text (h : ∀ n, src ≠ .text n) : Source.Allows levels src := by
  cases src with
  | text n => exact absurd rfl (h n)
  | buffer | kept | value => trivial

theorem exists_descend (h : Source.Allows (levels + 1) src) :
    ∃ src', descend src = .ok src' ∧ Source.Allows levels src' := by
  cases src with
  | text n =>
    cases n with
    | zero => exact absurd h (Nat.not_succ_le_zero levels)
    | succ n => exact ⟨.text n, rfl, Nat.le_of_succ_le_succ h⟩
  | buffer => exact ⟨.buffer, rfl, trivial⟩
  | kept => exact ⟨.kept, rfl, trivial⟩
  | value => exact ⟨.value, rfl, trivial⟩

theorem forceItems_ofItems {items : List Json}
    (h : ∀ i ∈ items, force src (Document.ofJson i) = .ok ()) :
    forceItems src (Document.ofItems items) = .ok () := by
  induction items with
  | nil => rfl
  | cons i items ih =>
    rw [Document.ofItems, forceItems, h i List.mem_cons_self]
    exact ih fun k hk => h k (List.mem_cons_of_mem i hk)

theorem forceMembers_ofMembers {members : List (String × Json)}
    (h : ∀ m ∈ members, force src (Document.ofJson m.2) = .ok ()) :
    forceMembers src (Document.ofMembers members) = .ok () := by
  induction members with
  | nil => rfl
  | cons m members ih =>
    rw [Document.ofMembers, forceMembers, h m List.mem_cons_self]
    exact ih fun k hk => h k (List.mem_cons_of_mem m hk)

/-- **All of a plain value can be read** from a source that allows its levels. -/
theorem force_ofJson (h : j.Plain levels) (hsrc : Source.Allows levels src) :
    force src (Document.ofJson j) = .ok () := by
  induction h generalizing src with
  | null => rfl
  | bool b => rfl
  | int h => rfl
  | string s => rfl
  | array _ ih =>
    obtain ⟨src', hsrc', hallows⟩ := exists_descend hsrc
    rw [Document.ofJson, force, hsrc']
    change ((forceItems src' _).bind fun _ => _) = _
    rw [forceItems_ofItems fun i hi => ih i hi hallows]
    rfl
  | object _ ih =>
    obtain ⟨src', hsrc', hallows⟩ := exists_descend hsrc
    rw [Document.ofJson, force, hsrc']
    change ((forceMembers src' _).bind fun _ => _) = _
    rw [forceMembers_ofMembers fun m hm => ih m hm hallows]
    rfl

/-! ## Decoders and the JSON they decode -/

/-- The JSON is plain, and decoded to the value wherever its levels are allowed. -/
structure Recovers (dec : Decoder α) (levels : Nat) (j : Json) (x : α) : Prop where
  plain : j.Plain levels
  decode : ∀ src, Source.Allows levels src → dec src (Document.ofJson j) = .ok x

namespace Recovers

/-- **The text of the JSON is decoded to the value.** -/
theorem text_render (h : Recovers dec levels j x) (hlevels : levels ≤ maxLevels) :
    Decode.text dec j.render = .ok x := by
  rw [Decode.text, h.plain.read_render]
  change ((dec (.text maxLevels) (Document.ofJson j)).bind _) = _
  rw [h.decode (.text maxLevels) hlevels]
  rfl

theorem value (h : Recovers dec levels j x) : Decode.value dec j = .ok x :=
  h.decode .value trivial

theorem map (f : α → β) (h : Recovers dec levels j x) :
    Recovers (fun src d => f <$> dec src d) levels j (f x) where
  plain := h.plain
  decode src hsrc := by
    rw [h.decode src hsrc]
    rfl

/-! ### Single values -/

theorem string (s : String) : Recovers Decode.string levels (.string s) s where
  plain := .string s
  decode _ _ := rfl

theorem bool (b : Bool) : Recovers Decode.bool levels (.bool b) b where
  plain := .bool b
  decode _ _ := rfl

theorem int {lo hi : Int} {name : String} {i : Int} (hsmall : Number.isSmall i)
    (hrange : lo ≤ i ∧ i ≤ hi) : Recovers (Decode.int lo hi name) levels (.ofInt i) i where
  plain := .int hsmall
  decode _ _ := if_pos hrange

theorem int64 (n : Int64) : Recovers Decode.int64 levels (.ofInt n.toInt) n := by
  have hlo := n.le_toInt
  have hhi := n.toInt_lt
  have h : Recovers (Decode.int (-0x8000000000000000) 0x7FFFFFFFFFFFFFFF "i64") levels
      (.ofInt n.toInt) n.toInt := int (by simp [Number.isSmall]; omega) (by omega)
  have hmap := h.map Int64.ofInt
  rwa [Int64.ofInt_toInt] at hmap

theorem int32 (n : Int32) : Recovers Decode.int32 levels (.ofInt n.toInt) n := by
  have hlo := n.le_toInt
  have hhi := n.toInt_lt
  have h : Recovers (Decode.int (-0x80000000) 0x7FFFFFFF "i32") levels
      (.ofInt n.toInt) n.toInt := int (by simp [Number.isSmall]; omega) (by omega)
  have hmap := h.map Int32.ofInt
  rwa [Int32.ofInt_toInt] at hmap

theorem uint32 (n : UInt32) : Recovers Decode.uint32 levels (.ofInt n.toNat) n := by
  have hhi := n.toNat_lt
  have h : Recovers (Decode.int 0 0xFFFFFFFF "u32") levels (.ofInt n.toNat) n.toNat :=
    int (by simp [Number.isSmall]; omega) (by omega)
  have hmap := h.map fun i => UInt32.ofNat i.toNat
  rwa [Int.toNat_natCast, UInt32.ofNat_toNat] at hmap

/-- One of the names known. -/
theorem named {known : List String} {pick? : String → Option α} {s : String}
    (h : pick? s = some x) : Recovers (Decode.named known pick?) levels (.string s) x where
  plain := .string s
  decode src _ := by
    dsimp only [Decode.named, Document.ofJson, choice]
    rw [h]
    rfl

/-- A value that is there, and is not null. -/
theorem option (h : Recovers dec levels j x) (hnull : j ≠ .null) :
    Recovers (Decode.option dec) levels j (some x) where
  plain := h.plain
  decode src hsrc := by
    have hdec := h.decode src hsrc
    cases j with
    | null => exact absurd rfl hnull
    | bool _ | number _ | string _ | array _ | object _ =>
      change some <$> dec src _ = _
      rw [hdec]
      rfl

/-! ### Sequences -/

theorem items_ofItems {encode : α → Json} (xs : List α)
    (h : ∀ x ∈ xs, dec src (Document.ofJson (encode x)) = .ok x) :
    Decode.items dec src (Document.ofItems (xs.map encode)) = .ok xs := by
  induction xs with
  | nil => rfl
  | cons x xs ih =>
    rw [List.map_cons, Document.ofItems, Decode.items, h x List.mem_cons_self,
      ih fun y hy => h y (List.mem_cons_of_mem x hy)]
    rfl

/-- **A list is recovered item by item.** -/
theorem list {encode : α → Json} {xs : List α}
    (h : ∀ x ∈ xs, Recovers dec levels (encode x) x) :
    Recovers (Decode.list dec) (levels + 1) (.array (xs.map encode)) xs where
  plain := .array fun i hi => by
    obtain ⟨x, hx, rfl⟩ := List.mem_map.mp hi
    exact (h x hx).plain
  decode src hsrc := by
    obtain ⟨src', hsrc', hallows⟩ := exists_descend hsrc
    rw [Document.ofJson, Decode.list, hsrc']
    change ((Decode.items dec src' _).bind fun _ => _) = _
    rw [items_ofItems xs fun x hx => (h x hx).decode src' hallows]
    rfl

theorem strings (xs : List String) :
    Recovers (Decode.list Decode.string) (levels + 1) (.ofStrings xs) xs :=
  list fun s _ => .string s

/-! ### Choices -/

/-- Forms are tried on a value that was read before, never on a text. -/
theorem oneForm {name : String} {forms : List (Decoder α)} (hplain : j.Plain levels)
    (h : ∀ src, (∀ n, src ≠ .text n) →
      (forms.findSome? fun dec => (dec src (Document.ofJson j)).toOption) = some x) :
    Recovers (Decode.oneForm name forms) levels j x where
  plain := hplain
  decode src hsrc := by
    cases src with
    | text n =>
      -- all of it is read before the forms are tried on it
      simp only [Decode.oneForm, buffered, force_ofJson hplain hsrc, h .buffer nofun]
      rfl
    | buffer | kept => simp only [Decode.oneForm, buffered, h .buffer nofun]
    | value => simp only [Decode.oneForm, buffered, h .value nofun]

end Recovers

/-! ## Records -/

namespace Fields

/-- The names of the fields. -/
def names : {α : Type} → Fields α → List String
  | _, .nil => []
  | _, .cons name _ _ rest => name :: rest.names

/-- The fields are recovered from what an encoder wrote of them: a field that is there from its
value, and one that is left out is the default. -/
inductive Recovers (levels : Nat) :
    {α : Type} → Fields α → List (String × Option Json) → α → Prop
  | nil : Recovers levels .nil [] ()
  | cons {α β : Type} {name : String} {dec : Decoder α} {absent : Absent α} {rest : Fields β}
      {js : List (String × Option Json)} {j? : Option Json} {x : α} {xs : β}
      (h : ∀ j ∈ j?, Decode.Recovers dec levels j x) (hdefault : j? = none → absent = .default x)
      (hrest : Recovers levels rest js xs) :
      Recovers levels (.cons name dec absent rest) ((name, j?) :: js) (x, xs)

variable {fs : Fields α} {js : List (String × Option Json)}

/-- Members of other names than the first field are read into the other fields. -/
theorem readMembers_skip {name : String} {dec : Decoder β} {absent : Absent β}
    {members : List (String × Json)} (hname : ∀ m ∈ members, m.1 ≠ name)
    (slot : Option β) {slots slots' : fs.Slots}
    (h : fs.readMembers src (Document.ofMembers members) slots = .ok slots') :
    (Fields.cons name dec absent fs).readMembers src (Document.ofMembers members) (slot, slots) =
      .ok (slot, slots') := by
  induction members generalizing slots with
  | nil =>
    cases h
    rfl
  | cons m members ih =>
    -- one member is passed on to the other fields, and leaves the first slot as it is
    have hone : (Fields.cons name dec absent fs).readMember src m.1 (Document.ofJson m.2)
        (slot, slots) = (fs.readMember src m.1 (Document.ofJson m.2) slots).map (slot, ·) := by
      refine (if_neg (hname m List.mem_cons_self)).trans ?_
      cases fs.readMember src m.1 (Document.ofJson m.2) slots <;> rfl
    change ((fs.readMember src m.1 (Document.ofJson m.2) slots).bind _) = _ at h
    change (((Fields.cons name dec absent fs).readMember src m.1 (Document.ofJson m.2)
      (slot, slots)).bind _) = _
    rw [hone]
    cases hread : fs.readMember src m.1 (Document.ofJson m.2) slots with
    | error e =>
      rw [hread] at h
      cases h
    | ok mid =>
      rw [hread] at h
      exact ih (fun k hk => hname k (List.mem_cons_of_mem m hk)) h

/-- The members that are there. -/
def present (js : List (String × Option Json)) : List (String × Json) :=
  js.filterMap fun f => f.2.map fun v => (f.1, v)

namespace Recovers

theorem mem_names (h : Recovers levels fs js x) : ∀ m ∈ present js, m.1 ∈ fs.names := by
  induction h with
  | nil => exact fun m hm => absurd hm List.not_mem_nil
  | @cons α β name dec absent rest js j? x xs hdec hdefault hrest ih =>
    intro m hm
    cases j? with
    | none => exact List.mem_cons_of_mem name (ih m hm)
    | some j =>
      rcases List.mem_cons.mp hm with rfl | hm
      · exact List.mem_cons_self
      · exact List.mem_cons_of_mem name (ih m hm)

theorem plain (h : Recovers levels fs js x) : ∀ m ∈ present js, m.2.Plain levels := by
  induction h with
  | nil => exact fun m hm => absurd hm List.not_mem_nil
  | @cons α β name dec absent rest js j? x xs hdec hdefault hrest ih =>
    intro m hm
    cases j? with
    | none => exact ih m hm
    | some j =>
      rcases List.mem_cons.mp hm with rfl | hm
      · exact (hdec j rfl).plain
      · exact ih m hm

/-- **The members that are there fill the slots**, and the record is made of them. -/
theorem exists_slots (h : Recovers levels fs js x) (hnames : fs.names.Nodup)
    (hsrc : Source.Allows levels src) :
    ∃ slots, fs.readMembers src (Document.ofMembers (present js)) fs.noSlots = .ok slots ∧
      fs.collect slots = .ok x := by
  induction h with
  | nil => exact ⟨(), rfl, rfl⟩
  | @cons α β name dec absent rest js j? x xs hdec hdefault hrest ih =>
    obtain ⟨hname, hnames⟩ := List.nodup_cons.mp hnames
    obtain ⟨slots, hread, hcollect⟩ := ih hnames
    -- the members after the first are of other fields
    have hother : ∀ m ∈ present js, m.1 ≠ name :=
      fun m hm => ne_of_mem_of_not_mem (hrest.mem_names m hm) hname
    cases j? with
    | none =>
      refine ⟨(none, slots), readMembers_skip hother none hread, ?_⟩
      rw [hdefault rfl]
      change ((rest.collect slots).bind fun xs => _) = _
      rw [hcollect]
      rfl
    | some j =>
      -- the first member fills the first slot, which is free
      refine ⟨(some x, slots), ?_, ?_⟩
      · have hone : (Fields.cons name dec absent rest).readMember src name (Document.ofJson j)
            (none, rest.noSlots) = .ok (some x, rest.noSlots) := by
          refine (if_pos rfl).trans ?_
          change ((dec src (Document.ofJson j)).bind fun x => _) = _
          rw [(hdec j rfl).decode src hsrc]
          rfl
        change (((Fields.cons name dec absent rest).readMember src name (Document.ofJson j)
          (none, rest.noSlots)).bind _) = _
        rw [hone]
        exact readMembers_skip hother (some x) hread
      · change ((rest.collect slots).bind fun xs => _) = _
        rw [hcollect]
        rfl

end Recovers

end Fields

/-- **A record is recovered field by field**, if each field has another name. -/
theorem Recovers.record {name : String} {fs : Fields α} {js : List (String × Option Json)}
    (build : α → β) (hnames : fs.names.Nodup) (h : fs.Recovers levels js x) :
    Recovers (Decode.record name fs build) (levels + 1) (.ofFields js) (build x) where
  plain := .object h.plain
  decode src hsrc := by
    obtain ⟨src', hsrc', hallows⟩ := exists_descend hsrc
    obtain ⟨slots, hread, hcollect⟩ := h.exists_slots hnames hallows
    rw [Json.ofFields, Document.ofJson, Decode.record, hsrc']
    change ((fs.readMembers src' (Document.ofMembers (Fields.present js)) fs.noSlots).bind
      fun slots => _) = _
    rw [hread]
    change ((fs.collect slots).bind fun x => _) = _
    rw [hcollect]
    rfl

namespace Fields.Recovers

variable {name : String} {rest : Fields β} {js : List (String × Option Json)} {xs : β}

/-- A field that is always written. -/
theorem written {absent : Absent α} (h : Decode.Recovers dec levels j x)
    (hrest : rest.Recovers levels js xs) :
    (Fields.cons name dec absent rest).Recovers levels ((name, some j) :: js) (x, xs) :=
  .cons (fun _ hj => Option.some.inj hj ▸ h) nofun hrest

/-- A field that is written if there is something to write. -/
theorem optional {encode : α → Json} {x : Option α}
    (h : ∀ y ∈ x, Decode.Recovers (Decode.option dec) levels (encode y) (some y))
    (hrest : rest.Recovers levels js xs) :
    (Fields.cons name (Decode.option dec) (.default none) rest).Recovers levels
      ((name, x.map encode) :: js) (x, xs) := by
  cases x with
  | none => exact .cons nofun (fun _ => rfl) hrest
  | some y => exact .cons (fun _ hj => Option.some.inj hj ▸ h y rfl) nofun hrest

end Fields.Recovers

end Decode

end FlagReplica
