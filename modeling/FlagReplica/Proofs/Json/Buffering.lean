import FlagReplica.Json.Codec
import FlagReplica.Proofs.Json.Provenance
/-!
# Decoding at once and decoding what was read before

A decoder walks a text, or a part of a text of which all was read before. The two differ in what
they find fault with, and in which fault comes first, but not in what they make of a document all
of which can be read (`Document.Whole`): a decoder is `Steady` if it then makes the same value of
both, or none of either.

There is a lemma for each piece that decoders are made of. Where one falls back on another form of
a value, or on the value as it stands, all of it is read first, and it is `Steady` whatever the
forms are (`Steady.buffered`).
-/

namespace FlagReplica

open Decode

/-! ## Documents all of which can be read -/

/-- All of the document can be read: it has no flaws, its numbers are in range, and its brackets are
at most so many levels deep. -/
inductive Document.Whole : Nat → Document → Prop
  | null {levels : Nat} : Whole levels .null
  | bool {levels : Nat} (b : Bool) : Whole levels (.bool b)
  | int {levels : Nat} (i : Int) : Whole levels (.number (.int i))
  | real {levels : Nat} {x : Binary64} (h : x.isFinite) : Whole levels (.number (.real x))
  | string {levels : Nat} (s : String) : Whole levels (.string s)
  | array {levels : Nat} {ds : List Document} (h : ∀ d ∈ ds, Whole levels d) :
    Whole (levels + 1) (.array ds .closed)
  | object {levels : Nat} {ms : List (Label × Document)} (hnames : ∀ m ∈ ms, ∃ s, m.1 = .name s)
      (h : ∀ m ∈ ms, Whole levels m.2) :
    Whole (levels + 1) (.object ms .closed)

namespace Decode

variable {α β γ : Type} {levels n : Nat} {d : Document}

theorem descend_text {src : Source} (h : descend (.text n) = .ok src) :
    ∃ k, n = k + 1 ∧ src = .text k := by
  cases n with
  | zero => cases h
  | succ k =>
    cases h
    exact ⟨k, rfl, rfl⟩

theorem eq_closed_of_finish {ending : Ending} (h : finish ending = .ok ()) : ending = .closed := by
  cases ending with
  | closed => rfl
  | cut flaw => cases h
  | afterComma => cases h

/-- Members are read to the end if they have names and their values are. -/
theorem forceMembers_cons {src : Source} {label : Label} {ms : List (Label × Document)}
    (h : forceMembers src ((label, d) :: ms) = .ok ()) :
    (∃ s, label = .name s) ∧ force src d = .ok () ∧ forceMembers src ms = .ok () := by
  unfold forceMembers at h
  cases label with
  | name s =>
    obtain ⟨_, hfirst, h⟩ := exists_of_bind_eq_ok h
    exact ⟨⟨s, rfl⟩, hfirst, h⟩
  | unpaired flaw => cases h
  | broken flaw => cases h
  | other => cases h

theorem names_of_forceMembers {src : Source} {ms : List (Label × Document)}
    (h : forceMembers src ms = .ok ()) : ∀ m ∈ ms, ∃ s, m.1 = .name s := by
  induction ms with
  | nil => exact fun m hm => absurd hm List.not_mem_nil
  | cons m ms ih =>
    obtain ⟨hname, -, hrest⟩ := forceMembers_cons h
    exact List.forall_mem_cons.mpr ⟨hname, ih hrest⟩

mutual

/-- **What can be read to its end is whole.** -/
theorem whole_of_force {n : Nat} (d : Document) (h : force (.text n) d = .ok ()) :
    d.Whole n := by
  cases d with
  | null => exact .null
  | bool b => exact .bool b
  | number x =>
    cases x with
    | int i => exact .int i
    | real x =>
      unfold force at h
      split at h
      · next hfinite => exact .real hfinite
      · cases h
  | string s => exact .string s
  | array ds ending =>
    unfold force at h
    obtain ⟨src, hdescend, h⟩ := exists_of_bind_eq_ok h
    obtain ⟨k, rfl, rfl⟩ := descend_text hdescend
    obtain ⟨_, hitems, h⟩ := exists_of_bind_eq_ok h
    rw [eq_closed_of_finish h]
    exact .array (whole_of_forceItems ds hitems)
  | object ms ending =>
    unfold force at h
    obtain ⟨src, hdescend, h⟩ := exists_of_bind_eq_ok h
    obtain ⟨k, rfl, rfl⟩ := descend_text hdescend
    obtain ⟨_, hmembers, h⟩ := exists_of_bind_eq_ok h
    rw [eq_closed_of_finish h]
    exact .object (names_of_forceMembers hmembers) (whole_of_forceMembers ms hmembers)
  | unpaired flaw => cases h
  | broken flaw => cases h

theorem whole_of_forceItems {n : Nat} (ds : List Document)
    (h : forceItems (.text n) ds = .ok ()) : ∀ d ∈ ds, d.Whole n := by
  cases ds with
  | nil => exact fun d hd => absurd hd List.not_mem_nil
  | cons d ds =>
    unfold forceItems at h
    obtain ⟨_, hfirst, h⟩ := exists_of_bind_eq_ok h
    exact List.forall_mem_cons.mpr ⟨whole_of_force d hfirst, whole_of_forceItems ds h⟩

theorem whole_of_forceMembers {n : Nat} (ms : List (Label × Document))
    (h : forceMembers (.text n) ms = .ok ()) : ∀ m ∈ ms, m.2.Whole n := by
  cases ms with
  | nil => exact fun m hm => absurd hm List.not_mem_nil
  | cons m ms =>
    obtain ⟨-, hfirst, hrest⟩ := forceMembers_cons h
    exact List.forall_mem_cons.mpr ⟨whole_of_force m.2 hfirst, whole_of_forceMembers ms hrest⟩

end

theorem forceItems_of_forall {src : Source} {ds : List Document}
    (h : ∀ d ∈ ds, force src d = .ok ()) : forceItems src ds = .ok () := by
  induction ds with
  | nil => rfl
  | cons d ds ih =>
    rw [forceItems, h d List.mem_cons_self]
    exact ih fun e he => h e (List.mem_cons_of_mem d he)

theorem forceMembers_of_forall {src : Source} {ms : List (Label × Document)}
    (hnames : ∀ m ∈ ms, ∃ s, m.1 = .name s) (h : ∀ m ∈ ms, force src m.2 = .ok ()) :
    forceMembers src ms = .ok () := by
  induction ms with
  | nil => rfl
  | cons m ms ih =>
    obtain ⟨label, d⟩ := m
    obtain ⟨s, rfl⟩ : ∃ s, label = .name s := hnames (label, d) List.mem_cons_self
    rw [forceMembers, h (.name s, d) List.mem_cons_self]
    exact ih (fun k hk => hnames k (List.mem_cons_of_mem _ hk))
      fun k hk => h k (List.mem_cons_of_mem _ hk)

/-- And it can be read to its end where more levels are allowed. -/
theorem force_of_whole (h : d.Whole levels) (hlevels : levels ≤ n) :
    force (.text n) d = .ok () := by
  induction h generalizing n with
  | null => rfl
  | bool b => rfl
  | int i => rfl
  | real hfinite => exact if_pos hfinite
  | string s => rfl
  | @array _ ds _ ih =>
    obtain ⟨k, rfl⟩ : ∃ k, n = k + 1 := ⟨n - 1, by omega⟩
    have hitems : ∀ e ∈ ds, force (.text k) e = .ok () := fun e he => ih e he (by omega)
    unfold force
    change ((forceItems (.text k) _).bind fun _ => _) = _
    rw [forceItems_of_forall hitems]
    rfl
  | @object _ ms hnames _ ih =>
    obtain ⟨k, rfl⟩ : ∃ k, n = k + 1 := ⟨n - 1, by omega⟩
    have hmembers : ∀ m ∈ ms, force (.text k) m.2 = .ok () := fun m hm => ih m hm (by omega)
    unfold force
    change ((forceMembers (.text k) _).bind fun _ => _) = _
    rw [forceMembers_of_forall hnames hmembers]
    rfl

/-- What can be read to its end is decoded as what was read before. -/
theorem buffered_of_whole (dec : Decoder α) (h : d.Whole levels) (hlevels : levels ≤ n) :
    buffered dec (.text n) d = dec .buffer d := by
  unfold buffered
  dsimp only
  rw [force_of_whole h hlevels]
  rfl

/-! ## The same value, if any -/

/-- The two come to the same value, or both fail. -/
def Agree (a b : Except Fault α) : Prop := ∀ x, a = .ok x ↔ b = .ok x

namespace Agree

variable {a b : Except Fault α}

theorem refl (a : Except Fault α) : Agree a a := fun _ => Iff.rfl

/-- Both fail. -/
theorem of_fails (ha : ∀ x, a ≠ .ok x) (hb : ∀ x, b ≠ .ok x) : Agree a b :=
  fun x => iff_of_false (ha x) (hb x)

theorem bind {f g : α → Except Fault β} (h : Agree a b) (hfg : ∀ x, Agree (f x) (g x)) :
    Agree (a.bind f) (b.bind g) := by
  have hone {a b : Except Fault α} {f g : α → Except Fault β} (h : ∀ x, a = .ok x → b = .ok x)
      (hfg : ∀ x y, f x = .ok y → g x = .ok y) (y : β) (hy : a.bind f = .ok y) :
      b.bind g = .ok y := by
    obtain ⟨x, hx, hfx⟩ := exists_of_bind_eq_ok hy
    rw [h x hx]
    exact hfg x y hfx
  exact fun y => ⟨hone (fun x => (h x).mp) (fun x y => (hfg x y).mp) y,
    hone (fun x => (h x).mpr) (fun x y => (hfg x y).mpr) y⟩

theorem map (f : α → β) (h : Agree a b) : Agree (f <$> a) (f <$> b) := by
  have hbind := h.bind fun x => refl (Except.ok (f x))
  cases a <;> cases b <;> exact hbind

theorem ite (p : Prop) [Decidable p] {a' b' : Except Fault α} (h : Agree a b) (h' : Agree a' b') :
    Agree (if p then a else a') (if p then b else b') := by
  split
  · exact h
  · exact h'

end Agree

/-- Of whole documents the decoder makes the same value from a text and from what was read before.
-/
structure Steady (dec : Decoder α) : Prop where
  agree : ∀ {levels n d}, d.Whole levels → levels ≤ n → Agree (dec (.text n) d) (dec .buffer d)

namespace Steady

variable {dec : Decoder α}

/-- A decoder that does not ask for the source. -/
theorem of_eq (h : ∀ src d, dec src d = dec .buffer d) : Steady dec where
  agree _ _ := by
    rw [h]
    exact .refl _

theorem map (f : α → β) (h : Steady dec) : Steady fun src d => f <$> dec src d where
  agree hd hlevels := (h.agree hd hlevels).map f

/-- **Where all is read first, it makes no difference** what is done with it then. -/
theorem buffered (dec : Decoder α) : Steady (Decode.buffered dec) where
  agree hd hlevels := by
    rw [buffered_of_whole dec hd hlevels]
    exact .refl _

theorem oneForm (name : String) (forms : List (Decoder α)) : Steady (Decode.oneForm name forms) :=
  buffered _

/-! ### Single values -/

theorem string : Steady Decode.string := of_eq fun _ d => by cases d <;> rfl

theorem bool : Steady Decode.bool := of_eq fun _ d => by cases d <;> rfl

theorem int (lo hi : Int) (name : String) : Steady (Decode.int lo hi name) :=
  of_eq fun _ d => by
    cases d with
    | number x => cases x <;> rfl
    | _ => rfl

theorem int64 : Steady Decode.int64 := (int _ _ _).map _

theorem int32 : Steady Decode.int32 := (int _ _ _).map _

theorem option (h : Steady dec) : Steady (Decode.option dec) where
  agree {_ n d} hd hlevels := by
    have hsome : Agree (some <$> dec (.text n) d) (some <$> dec .buffer d) :=
      (h.agree hd hlevels).map some
    cases d with
    | null => exact .refl _
    | _ => exact hsome

/-! ### Sequences -/

theorem items {ds : List Document} (h : Steady dec) (hds : ∀ d ∈ ds, d.Whole levels)
    (hlevels : levels ≤ n) :
    Agree (Decode.items dec (.text n) ds) (Decode.items dec .buffer ds) := by
  induction ds with
  | nil => exact .refl _
  | cons d ds ih =>
    rw [List.forall_mem_cons] at hds
    refine (h.agree hds.1 hlevels).bind fun x => ?_
    exact (ih hds.2).bind fun xs => .refl _

theorem list (h : Steady dec) : Steady (Decode.list dec) where
  agree {_ n _} hd hlevels := by
    cases hd with
    | array hds =>
      obtain ⟨k, rfl⟩ : ∃ k, n = k + 1 := ⟨n - 1, by omega⟩
      exact (h.items hds (by omega)).bind fun xs => .refl _
    | real _ => exact .refl _
    | _ => exact .refl _

/-! ### Choices -/

theorem noBody_eq (x : α) (n : Nat) (d : Document) :
    noBody x (.text n) (some d) = noBody x .buffer (some d) := by
  have hunit : unit (.text n) d = unit .buffer d := by
    cases d with
    | object ms ending => cases ms <;> rfl
    | _ => rfl
  simp only [noBody, hunit]

/-- A name, or the one member of an object. From a text other objects are refused only once the
first member was looked at, but refused as well. -/
theorem named (known : List String) (pick? : String → Option α) :
    Steady (Decode.named known pick?) where
  agree {_ n _} hd hlevels := by
    cases hd with
    | string s => exact .refl _
    | @object levels ms hnames _ =>
      obtain ⟨k, rfl⟩ : ∃ k, n = k + 1 := ⟨n - 1, by omega⟩
      cases ms with
      | nil => exact .of_fails nofun nofun
      | cons m ms =>
        obtain ⟨label, d⟩ := m
        obtain ⟨s, rfl⟩ : ∃ s, label = .name s := hnames (label, d) List.mem_cons_self
        cases ms with
        | nil =>
          refine (Agree.refl _).bind fun x => ?_
          rw [noBody_eq x k d]
          cases noBody x .buffer (some d) <;> exact .refl _
        | cons m' ms =>
          refine .of_fails (fun x h => ?_) nofun
          obtain ⟨_, _, h⟩ := exists_of_bind_eq_ok h
          obtain ⟨_, _, h⟩ := exists_of_bind_eq_ok h
          cases h
    | null | bool _ | int _ | array _ => exact .of_fails nofun nofun
    | @real _ x _ =>
      refine .of_fails nofun fun _ => ?_
      change wrongType (.number (.real x)) "string or map" ≠ _
      exact wrongType_ne_ok

end Steady

/-! ## Records -/

namespace Fields

/-- The decoders of all fields are steady. -/
def Steady : {α : Type} → Fields α → Prop
  | _, .nil => True
  | _, .cons _ dec _ rest => Decode.Steady dec ∧ rest.Steady

variable {fs : Fields α}

theorem Steady.readMember (h : fs.Steady) (hd : d.Whole levels) (hlevels : levels ≤ n)
    (name : String) (slots : fs.Slots) :
    Agree (fs.readMember (.text n) name d slots) (fs.readMember .buffer name d slots) := by
  induction fs with
  | nil => exact .refl _
  | cons field dec absent rest ih =>
    obtain ⟨slot, others⟩ := slots
    refine Agree.ite (name = field) ?_ ?_
    · cases slot with
      | some x => exact .refl _
      | none => exact (h.1.agree hd hlevels).bind fun x => .refl _
    · exact (ih h.2 others).bind fun slots => .refl _

theorem Steady.readMembers {ms : List (Label × Document)} (h : fs.Steady)
    (hms : ∀ m ∈ ms, m.2.Whole levels) (hlevels : levels ≤ n) (slots : fs.Slots) :
    Agree (fs.readMembers (.text n) ms slots) (fs.readMembers .buffer ms slots) := by
  induction ms generalizing slots with
  | nil => exact .refl _
  | cons m ms ih =>
    rw [List.forall_mem_cons] at hms
    refine (Agree.refl (labelName m.1)).bind fun name => ?_
    exact (h.readMember hms.1 hlevels name slots).bind fun slots => ih hms.2 slots

theorem Steady.readItems {ds : List Document} (h : fs.Steady) (hds : ∀ d ∈ ds, d.Whole levels)
    (hlevels : levels ≤ n) (expected : String) (ending : Ending) (i : Nat) :
    Agree (fs.readItems (.text n) expected ending i ds)
      (fs.readItems .buffer expected ending i ds) := by
  induction fs generalizing i ds with
  | nil => exact .refl _
  | cons field dec absent rest ih =>
    cases ds with
    | nil =>
      refine (Agree.refl (finish ending)).bind fun _ => ?_
      cases absent with
      | default x => exact (ih h.2 hds (i + 1)).bind fun p => .refl _
      | required => exact .refl _
      | named x => exact .refl _
    | cons d ds =>
      rw [List.forall_mem_cons] at hds
      refine (h.1.agree hds.1 hlevels).bind fun x => ?_
      exact (ih h.2 hds.2 (i + 1)).bind fun p => .refl _

end Fields

/-- Items after the last field are refused, whatever is said about them. -/
theorem agree_noMore (fields : Nat) (rest : List Document) (ending : Ending) :
    Agree (noMore (.text n) fields rest ending) (noMore .buffer fields rest ending) := by
  cases rest with
  | nil => cases ending <;> exact .refl _
  | cons d rest => exact .of_fails nofun nofun

/-- **A record is steady if its fields are**, as an object and as a sequence. -/
theorem Steady.record {fs : Fields α} (name : String) (build : α → β) (h : fs.Steady) :
    Steady (Decode.record name fs build) where
  agree {_ n _} hd hlevels := by
    cases hd with
    | object _ hms =>
      obtain ⟨k, rfl⟩ : ∃ k, n = k + 1 := ⟨n - 1, by omega⟩
      exact (h.readMembers hms (by omega) fs.noSlots).bind fun slots => .refl _
    | array hds =>
      obtain ⟨k, rfl⟩ : ∃ k, n = k + 1 := ⟨n - 1, by omega⟩
      refine (h.readItems hds (by omega) _ _ 0).bind fun p => ?_
      exact (agree_noMore fs.count p.2 .closed).bind fun _ => .refl _
    | real _ => exact .refl _
    | _ => exact .refl _

end Decode

end FlagReplica
