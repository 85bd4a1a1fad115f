import FlagReplica.Proofs.Json.Provenance
import FlagReplica.Proofs.Json.Reading
import Mathlib.Data.List.TakeWhile
/-!
# A value is read the same wherever it stands

What the reader makes of the beginning of a text does not depend on what follows, as long as it
stopped before that. So a value that can be read where nothing follows is read the same among the
items of an array (`readValue_append`), and what is left over is left over there as well.

Only a number goes on until something else stops it. So if nothing is left over, the text that
follows has to be one that a value cannot go on with (`Divided`). All other values close themselves.

The reader counts its steps, and allows itself more for a longer text. That it makes the same of a
text with more steps is said along with it. The parts of the reader call each other, so there is one
induction for all of them, on the steps (`LocalWithin`).
-/

namespace FlagReplica.Document

open Decode (exists_of_bind_eq_ok)

variable {α β : Type} {cs rest tail : List Char} {fuel fuel' : Nat}

/-- What follows cannot be taken for a part of what was read: something is left over before it, or
a value cannot go on with it. -/
def Divided (rest tail : List Char) : Prop := rest = [] → Stops tail

theorem Divided.of_ne_nil (h : rest ≠ []) : Divided rest tail := fun hnil => absurd hnil h

/-- What is left over starts as before, or a value cannot go on with what follows. -/
theorem Divided.head {P : Char → Prop} (h : Divided rest tail) (hrest : ∀ c ∈ rest.head?, P c)
    (hstop : ∀ c, c = ',' ∨ c = ']' ∨ c = '}' → P c) : ∀ c ∈ (rest ++ tail).head?, P c := by
  cases rest with
  | nil =>
    intro c hc
    exact hstop c (h rfl c hc)
  | cons d rest => exact hrest

theorem skipBlanks_append {c : Char} (h : skipBlanks cs = c :: rest) :
    skipBlanks (cs ++ tail) = c :: (rest ++ tail) := by
  unfold skipBlanks at h ⊢
  rw [List.dropWhile_append, h]
  rfl

/-! ## Numbers -/

/-- What reads a part of a number, if no flaw stops it. -/
abbrev Reader (α : Type) := List Char → Except Flaw (α × List Char)

/-- The reader takes nothing from where there is nothing, and reads the same where the text goes
on. -/
structure Reader.Local (read : Reader α) : Prop where
  nil : ∀ x rest, read [] = .ok (x, rest) → rest = []
  append : ∀ cs x rest tail, read cs = .ok (x, rest) → Divided rest tail →
    read (cs ++ tail) = .ok (x, rest ++ tail)

namespace Reader.Local

theorem pure (x : α) : Local fun cs => .ok (x, cs) where
  nil _ _ h := by
    cases h
    rfl
  append _ _ _ _ h _ := by
    cases h
    rfl

/-- One reader after the other. Where the first leaves nothing over, the second does not either. -/
theorem bind {first : Reader α} {next : α → Reader β} (hfirst : Local first)
    (hnext : ∀ x, Local (next x)) : Local fun cs => (first cs).bind fun p => next p.1 p.2 where
  nil y rest h := by
    obtain ⟨p, hread, h⟩ := exists_of_bind_eq_ok h
    have hleft : p.2 = [] := hfirst.nil p.1 p.2 hread
    exact (hnext p.1).nil y rest (hleft ▸ h)
  append cs y rest tail h hdivided := by
    obtain ⟨p, hread, h⟩ := exists_of_bind_eq_ok h
    have hbetween : Divided p.2 tail := by
      intro hnil
      exact hdivided ((hnext p.1).nil y rest (hnil ▸ h))
    rw [hfirst.append cs p.1 p.2 tail hread hbetween]
    exact (hnext p.1).append p.2 y rest tail h hdivided

end Reader.Local

open Reader (Local)

theorem spanDigits_of_readDigits {ds : List Char} (h : readDigits cs = .ok (ds, rest)) :
    Text.spanDigits 10 cs = (ds, rest) ∧ ds ≠ [] := by
  unfold readDigits at h
  cases hspan : Text.spanDigits 10 cs with
  | mk ds' rest' =>
    rw [hspan] at h
    cases ds' with
    | nil => cases rest' <;> cases h
    | cons d ds' =>
      cases h
      exact ⟨rfl, List.cons_ne_nil d ds'⟩

theorem local_readDigits : Local readDigits where
  nil _ _ h := by cases h
  append cs ds rest tail h hdivided := by
    obtain ⟨hspan, hne⟩ := spanDigits_of_readDigits h
    have htext : cs = ds ++ rest := by
      have happend := Text.spanDigits_append 10 cs
      rw [hspan] at happend
      exact happend.symm
    have hdigits : ∀ d ∈ ds, Text.isDigitOf 10 d = true := by
      intro d hd
      have htake : ds = cs.takeWhile (Text.isDigitOf 10) := (congrArg Prod.fst hspan).symm
      exact List.mem_takeWhile_imp (htake ▸ hd)
    have hhead : ∀ c ∈ rest.head?, Text.isDigitOf 10 c = false := by
      have hrest := Text.spanDigits_rest_head 10 cs
      rwa [hspan] at hrest
    have hstop : ∀ c, c = ',' ∨ c = ']' ∨ c = '}' → Text.isDigitOf 10 c = false := by
      rintro c (rfl | rfl | rfl) <;> decide
    have hgoesOn : Text.spanDigits 10 (cs ++ tail) = (ds, rest ++ tail) := by
      rw [htext, List.append_assoc]
      exact Text.spanDigits_digits_append hdigits (hdivided.head hhead hstop)
    rw [readDigits, hgoesOn]
    cases ds with
    | nil => exact absurd rfl hne
    | cons d ds => rfl

theorem local_readWhole : Local readWhole where
  nil _ _ h := by cases h
  append cs ds rest tail h hdivided := by
    unfold readWhole at h ⊢
    obtain ⟨p, hread, h⟩ := exists_of_bind_eq_ok h
    dsimp only at h
    split at h
    · cases h
    · next hwhole =>
      cases h
      rw [local_readDigits.append cs p.1 p.2 tail hread hdivided]
      dsimp only [bind, Except.bind]
      split
      · next hzero => exact absurd hzero (hwhole _ _)
      · rfl

theorem local_readFraction : Local readFraction where
  nil _ _ h := by
    cases h
    rfl
  append cs fraction rest tail h hdivided := by
    cases cs with
    | nil =>
      -- there is no fraction, and what follows does not start one
      cases h
      have hstops : Stops tail := hdivided rfl
      cases tail with
      | nil => rfl
      | cons c tail => rcases hstops c rfl with rfl | rfl | rfl <;> rfl
    | cons c cs =>
      by_cases hpoint : c = '.'
      · subst hpoint
        have hdigits := local_readDigits.bind (fun ds => Local.pure (some ds))
        exact hdigits.append cs fraction rest tail h hdivided
      · have hnone (cs : List Char) : readFraction (c :: cs) = .ok (none, c :: cs) := by
          unfold readFraction
          split
          · next heq => exact absurd (List.cons.inj heq).1 hpoint
          · rfl
        rw [hnone] at h
        cases h
        exact hnone (cs ++ tail)

/-- Whether an exponent is negative, and its digits with what follows. -/
def exponentSign : List Char → Bool × List Char
  | '-' :: cs => (true, cs)
  | '+' :: cs => (false, cs)
  | cs => (false, cs)

theorem exponentSign_append (h : cs ≠ []) :
    exponentSign (cs ++ tail) = ((exponentSign cs).1, (exponentSign cs).2 ++ tail) := by
  cases cs with
  | nil => exact absurd rfl h
  | cons c cs =>
    unfold exponentSign
    split <;> simp_all

theorem readExponent_of_letter {c : Char} (h : c = 'e' ∨ c = 'E') (cs : List Char) :
    readExponent (c :: cs) = (readDigits (exponentSign cs).2).bind fun p =>
      .ok (some (if (exponentSign cs).1 then -(Text.appendDigits 10 0 p.1 : Int)
        else Text.appendDigits 10 0 p.1), p.2) :=
  if_pos h

theorem readExponent_of_other {c : Char} (h : ¬ (c = 'e' ∨ c = 'E')) (cs : List Char) :
    readExponent (c :: cs) = .ok (none, c :: cs) := if_neg h

theorem local_readExponent : Local readExponent where
  nil _ _ h := by
    cases h
    rfl
  append cs exponent rest tail h hdivided := by
    cases cs with
    | nil =>
      -- there is no exponent, and what follows does not start one
      cases h
      have hstops : Stops tail := hdivided rfl
      cases tail with
      | nil => rfl
      | cons c tail => rcases hstops c rfl with rfl | rfl | rfl <;> rfl
    | cons c cs =>
      by_cases hletter : c = 'e' ∨ c = 'E'
      · have hcs : cs ≠ [] := by
          rintro rfl
          rw [readExponent_of_letter hletter] at h
          cases h
        rw [readExponent_of_letter hletter] at h
        rw [List.cons_append, readExponent_of_letter hletter, exponentSign_append hcs]
        have hdigits := local_readDigits.bind fun ds => Local.pure
          (some (if (exponentSign cs).1 then -(Text.appendDigits 10 0 ds : Int)
            else Text.appendDigits 10 0 ds))
        exact hdigits.append _ exponent rest tail h hdivided
      · rw [readExponent_of_other hletter] at h
        cases h
        exact readExponent_of_other hletter (cs ++ tail)

/-- **A number is read the same** where something follows that divides it from the rest. -/
theorem local_readNumber (negative : Bool) : Local (readNumber negative) := by
  have hexponent (whole : List Char) (fraction : Option (List Char)) : Local fun rest =>
      (readExponent rest).bind fun p => .ok (numberOf negative whole fraction p.1, p.2) :=
    local_readExponent.bind fun exponent => .pure (numberOf negative whole fraction exponent)
  have hfraction (whole : List Char) : Local fun rest => (readFraction rest).bind fun p =>
      (readExponent p.2).bind fun q => .ok (numberOf negative whole p.1 q.1, q.2) :=
    local_readFraction.bind (hexponent whole)
  exact local_readWhole.bind hfraction

/-! ## Strings -/

theorem readHex4_append {n : Nat} (h : readHex4 cs = .ok (n, rest)) (tail : List Char) :
    readHex4 (cs ++ tail) = .ok (n, rest ++ tail) := by
  unfold readHex4 at h
  by_cases hbytes : bytesUpTo 4 cs < 4
  · rw [if_pos hbytes] at h
    cases h
  · rw [if_neg hbytes] at h
    split at h
    · split at h
      · next hdigits =>
        cases h
        exact readHex4_digits hdigits
      · cases h
    · cases h

/-- What follows the first half of a pair: the second half, or something else, which stays, unless
it is another escape. -/
def readSecond (high : Nat) : Reader (Option Char) := fun cs =>
  match cs with
  | [] => .error .truncated
  | '\\' :: [] => .error .truncated
  | '\\' :: 'u' :: after =>
    (readHex4 after).bind fun p =>
      if 0xDC00 ≤ p.1 ∧ p.1 ≤ 0xDFFF then
        .ok (some (Char.ofNat (0x10000 + (high - 0xD800) * 0x400 + (p.1 - 0xDC00))), p.2)
      else .ok (none, p.2)
  | _ => .ok (none, cs)

theorem readSecond_append {high : Nat} {code : Option Char}
    (h : readSecond high cs = .ok (code, rest)) (tail : List Char) :
    readSecond high (cs ++ tail) = .ok (code, rest ++ tail) := by
  unfold readSecond at h
  split at h
  · cases h
  · cases h
  · next after =>
    obtain ⟨p, hsecond, h⟩ := exists_of_bind_eq_ok h
    change (readHex4 (after ++ tail)).bind _ = _
    rw [readHex4_append hsecond tail]
    change (if _ then _ else _) = _
    split
    · next hpair =>
      rw [if_pos hpair] at h
      cases h
      rfl
    · next hpair =>
      rw [if_neg hpair] at h
      cases h
      rfl
  · -- what there is already tells that no other escape follows
    next hempty hslash hescape =>
    cases h
    rcases cs with _ | ⟨c, cs⟩
    · exact absurd rfl hempty
    by_cases hc : c = '\\'
    · subst hc
      rcases cs with _ | ⟨d, cs⟩
      · exact absurd rfl hslash
      have hd : d ≠ 'u' := fun hd => hescape cs (by rw [hd])
      simp [readSecond, hd]
    · simp [readSecond, hc]

theorem readCode_eq (cs : List Char) : readCode cs = (readHex4 cs).bind fun p =>
    if p.1 < 0xD800 ∨ 0xDFFF < p.1 then .ok (some (Char.ofNat p.1), p.2)
    else if 0xDC00 ≤ p.1 then .ok (none, p.2)
    else readSecond p.1 p.2 := by
  unfold readCode readSecond
  cases readHex4 cs with
  | error flaw => rfl
  | ok p =>
    obtain ⟨high, rest⟩ := p
    dsimp only [bind, Except.bind, pure, Except.pure]
    congr

theorem readCode_append {code : Option Char} (h : readCode cs = .ok (code, rest))
    (tail : List Char) : readCode (cs ++ tail) = .ok (code, rest ++ tail) := by
  rw [readCode_eq] at h ⊢
  obtain ⟨p, hhigh, h⟩ := exists_of_bind_eq_ok h
  rw [readHex4_append hhigh tail]
  dsimp only [Except.bind]
  split at h
  · next hplain =>
    cases h
    rw [if_pos hplain]
  · next hplain =>
    rw [if_neg hplain]
    split at h
    · next hlow =>
      cases h
      rw [if_pos hlow]
    · next hlow =>
      rw [if_neg hlow]
      exact readSecond_append h tail

/-- **A string that closes is read the same** where something follows, and with more steps. -/
theorem readString_append {acc : Option (List Char)} {text : Option String}
    (h : readString fuel acc cs = .closed text rest) (hfuel : fuel ≤ fuel') (tail : List Char) :
    readString fuel' acc (cs ++ tail) = .closed text (rest ++ tail) := by
  induction fuel generalizing acc cs fuel' with
  | zero => cases h
  | succ fuel ih =>
    obtain ⟨fuel', rfl⟩ : ∃ k, fuel' = k + 1 := ⟨fuel' - 1, by omega⟩
    have hless : fuel ≤ fuel' := by omega
    cases cs with
    | nil => cases h
    | cons c cs =>
      rw [List.cons_append]
      unfold readString at h ⊢
      by_cases hquote : c = '"'
      · rw [if_pos hquote] at h ⊢
        cases h
        rfl
      rw [if_neg hquote] at h ⊢
      by_cases hslash : c = '\\'
      · rw [if_pos hslash] at h ⊢
        cases cs with
        | nil => cases h
        | cons e cs =>
          rw [List.cons_append]
          by_cases hcode : e = 'u'
          · subst hcode
            cases hread : readCode cs with
            | error flaw =>
              simp only [hread] at h
              cases h
            | ok p =>
              simp only [hread] at h
              simp only [readCode_append hread tail]
              exact ih h hless
          · cases hletter : letterEscape? e with
            | none =>
              simp [hletter] at h
            | some d =>
              simp only [hletter] at h ⊢
              exact ih h hless
      rw [if_neg hslash] at h ⊢
      by_cases hcontrol : c.toNat < 0x20
      · rw [if_pos hcontrol] at h
        cases h
      rw [if_neg hcontrol] at h ⊢
      exact ih h hless

/-! ## Values -/

theorem readWord_append {value d : Document} {word : List Char}
    (h : readWord value word cs = (d, some rest)) (tail : List Char) :
    readWord value word (cs ++ tail) = (d, some (rest ++ tail)) := by
  induction word generalizing cs with
  | nil =>
    cases h
    rfl
  | cons w word ih =>
    cases cs with
    | nil => cases h
    | cons c cs =>
      rw [List.cons_append]
      unfold readWord at h ⊢
      by_cases hsame : w = c
      · rw [if_pos hsame] at h ⊢
        exact ih h
      · rw [if_neg hsame] at h
        cases h

/-- The value of a literal, and what is left over if it closed. -/
def Literal.value : Literal → Document × Option (List Char)
  | .closed (some s) rest => (.string s, some rest)
  | .closed none rest => (.unpaired none, some rest)
  | .stopped false flaw => (.broken flaw, none)
  | .stopped true flaw => (.unpaired (some flaw), none)

theorem literal_append {acc : Option (List Char)} {d : Document}
    (h : (readString fuel acc cs).value = (d, some rest)) (hfuel : fuel ≤ fuel')
    (tail : List Char) : (readString fuel' acc (cs ++ tail)).value = (d, some (rest ++ tail)) := by
  cases hread : readString fuel acc cs with
  | stopped unpaired flaw =>
    rw [hread] at h
    cases unpaired <;> cases h
  | closed text left =>
    rw [hread] at h
    rw [readString_append hread hfuel tail]
    cases text with
    | some s =>
      cases h
      rfl
    | none =>
      cases h
      rfl

/-- The value of a number, and what is left over. -/
def numberValue : Except Flaw (Number × List Char) → Document × Option (List Char)
  | .ok (n, rest) => (.number n, some rest)
  | .error flaw => (.broken flaw, none)

theorem numberValue_append {negative : Bool} {d : Document}
    (h : numberValue (readNumber negative cs) = (d, some rest)) (hdivided : Divided rest tail) :
    numberValue (readNumber negative (cs ++ tail)) = (d, some (rest ++ tail)) := by
  cases hread : readNumber negative cs with
  | error flaw =>
    rw [hread] at h
    cases h
  | ok p =>
    rw [hread] at h
    cases h
    rw [(local_readNumber negative).append cs p.1 p.2 tail hread hdivided]
    rfl

/-- With so many steps each part of the reader reads the same where something follows, and with
more steps. A list ends with its bracket, so whatever follows is divided from it. -/
structure LocalWithin (fuel : Nat) : Prop where
  value : ∀ cs d rest fuel' tail, readValue fuel cs = (d, some rest) → fuel ≤ fuel' →
    Divided rest tail → readValue fuel' (cs ++ tail) = (d, some (rest ++ tail))
  items : ∀ first cs ds ending rest fuel' tail,
    readItems fuel first cs = (ds, ending, some rest) → fuel ≤ fuel' →
      readItems fuel' first (cs ++ tail) = (ds, ending, some (rest ++ tail))
  item : ∀ cs ds ending rest fuel' tail,
    readItem fuel cs = (ds, ending, some rest) → fuel ≤ fuel' →
      readItem fuel' (cs ++ tail) = (ds, ending, some (rest ++ tail))
  members : ∀ first cs ms ending rest fuel' tail,
    readMembers fuel first cs = (ms, ending, some rest) → fuel ≤ fuel' →
      readMembers fuel' first (cs ++ tail) = (ms, ending, some (rest ++ tail))
  member : ∀ cs ms ending rest fuel' tail,
    readMember fuel cs = (ms, ending, some rest) → fuel ≤ fuel' →
      readMember fuel' (cs ++ tail) = (ms, ending, some (rest ++ tail))

theorem localWithin_zero : LocalWithin 0 where
  value _ _ _ _ _ h := by cases h
  items _ _ _ _ _ _ _ h := by cases h
  item _ _ _ _ _ _ h := by cases h
  members _ _ _ _ _ _ _ h := by cases h
  member _ _ _ _ _ _ h := by cases h

namespace LocalWithin

variable (ih : LocalWithin fuel) {ending : Ending}

include ih

/-- A value is of the kind that its first character says. -/
theorem value_succ {d : Document} (h : readValue (fuel + 1) cs = (d, some rest))
    (hfuel : fuel ≤ fuel') (hdivided : Divided rest tail) :
    readValue (fuel' + 1) (cs ++ tail) = (d, some (rest ++ tail)) := by
  unfold readValue at h ⊢
  cases hskip : skipBlanks cs with
  | nil =>
    rw [hskip] at h
    cases h
  | cons c after =>
    rw [hskip] at h
    rw [skipBlanks_append hskip]
    dsimp only at h ⊢
    by_cases hquote : c = '"'
    · rw [if_pos hquote] at h ⊢
      have hlength : after.length + 1 ≤ (after ++ tail).length + 1 := by simp
      exact literal_append h hlength tail
    rw [if_neg hquote] at h ⊢
    by_cases hbracket : c = '['
    · rw [if_pos hbracket] at h ⊢
      rcases hitems : readItems fuel true after with ⟨items, ending, left⟩
      rw [hitems] at h
      cases h
      rw [ih.items true after items ending rest fuel' tail hitems hfuel]
    rw [if_neg hbracket] at h ⊢
    by_cases hbrace : c = '{'
    · rw [if_pos hbrace] at h ⊢
      rcases hmembers : readMembers fuel true after with ⟨members, ending, left⟩
      rw [hmembers] at h
      cases h
      rw [ih.members true after members ending rest fuel' tail hmembers hfuel]
    rw [if_neg hbrace] at h ⊢
    by_cases hminus : c = '-'
    · rw [if_pos hminus] at h ⊢
      exact numberValue_append h hdivided
    rw [if_neg hminus] at h ⊢
    by_cases hdigit : Text.isDigitOf 10 c
    · rw [if_pos hdigit] at h ⊢
      rw [← List.cons_append]
      exact numberValue_append h hdivided
    rw [if_neg hdigit] at h ⊢
    by_cases hnull : c = 'n'
    · rw [if_pos hnull] at h ⊢
      exact readWord_append h tail
    rw [if_neg hnull] at h ⊢
    by_cases htrue : c = 't'
    · rw [if_pos htrue] at h ⊢
      exact readWord_append h tail
    rw [if_neg htrue] at h ⊢
    by_cases hfalse : c = 'f'
    · rw [if_pos hfalse] at h ⊢
      exact readWord_append h tail
    rw [if_neg hfalse] at h
    cases h

theorem items_succ {first : Bool} {ds : List Document}
    (h : readItems (fuel + 1) first cs = (ds, ending, some rest)) (hfuel : fuel ≤ fuel')
    (tail : List Char) :
    readItems (fuel' + 1) first (cs ++ tail) = (ds, ending, some (rest ++ tail)) := by
  unfold readItems at h ⊢
  cases hskip : skipBlanks cs with
  | nil =>
    rw [hskip] at h
    cases h
  | cons c after =>
    rw [hskip] at h
    rw [skipBlanks_append hskip]
    dsimp only at h ⊢
    by_cases hclose : c = ']'
    · rw [if_pos hclose] at h ⊢
      cases h
      rfl
    rw [if_neg hclose] at h ⊢
    cases first with
    | true => exact ih.item (c :: after) ds ending rest fuel' tail h hfuel
    | false =>
      rw [if_neg Bool.false_ne_true] at h ⊢
      by_cases hcomma : c = ','
      · rw [if_pos hcomma] at h ⊢
        cases hnext : skipBlanks after with
        | nil =>
          rw [hnext] at h
          cases h
        | cons d more =>
          rw [hnext] at h
          rw [skipBlanks_append hnext]
          exact ih.item (d :: more) ds ending rest fuel' tail h hfuel
      · rw [if_neg hcomma] at h
        cases h

/-- After an item there has to be something left over, or the array would not close. -/
theorem item_succ {ds : List Document} (h : readItem (fuel + 1) cs = (ds, ending, some rest))
    (hfuel : fuel ≤ fuel') (tail : List Char) :
    readItem (fuel' + 1) (cs ++ tail) = (ds, ending, some (rest ++ tail)) := by
  unfold readItem at h ⊢
  rcases hvalue : readValue fuel cs with ⟨d, _ | left⟩
  · rw [hvalue] at h
    cases h
  · rw [hvalue] at h
    dsimp only at h
    rcases hitems : readItems fuel false left with ⟨items, ending', left'⟩
    rw [hitems] at h
    cases h
    have hleft : left ≠ [] := by
      rintro rfl
      cases fuel <;> cases hitems
    rw [ih.value cs d left fuel' tail hvalue hfuel (.of_ne_nil hleft)]
    dsimp only
    rw [ih.items false left items ending' rest fuel' tail hitems hfuel]

theorem members_succ {first : Bool} {ms : List (Label × Document)}
    (h : readMembers (fuel + 1) first cs = (ms, ending, some rest)) (hfuel : fuel ≤ fuel')
    (tail : List Char) :
    readMembers (fuel' + 1) first (cs ++ tail) = (ms, ending, some (rest ++ tail)) := by
  unfold readMembers at h ⊢
  cases hskip : skipBlanks cs with
  | nil =>
    rw [hskip] at h
    cases h
  | cons c after =>
    rw [hskip] at h
    rw [skipBlanks_append hskip]
    dsimp only at h ⊢
    by_cases hclose : c = '}'
    · rw [if_pos hclose] at h ⊢
      cases h
      rfl
    rw [if_neg hclose] at h ⊢
    cases first with
    | true => exact ih.member (c :: after) ms ending rest fuel' tail h hfuel
    | false =>
      rw [if_neg Bool.false_ne_true] at h ⊢
      by_cases hcomma : c = ','
      · rw [if_pos hcomma] at h ⊢
        cases hnext : skipBlanks after with
        | nil =>
          rw [hnext] at h
          cases h
        | cons d more =>
          rw [hnext] at h
          rw [skipBlanks_append hnext]
          exact ih.member (d :: more) ms ending rest fuel' tail h hfuel
      · rw [if_neg hcomma] at h
        cases h

theorem member_succ {ms : List (Label × Document)}
    (h : readMember (fuel + 1) cs = (ms, ending, some rest)) (hfuel : fuel ≤ fuel')
    (tail : List Char) :
    readMember (fuel' + 1) (cs ++ tail) = (ms, ending, some (rest ++ tail)) := by
  cases cs with
  | nil => cases h
  | cons c after =>
    rw [List.cons_append]
    unfold readMember at h ⊢
    by_cases hquote : c = '"'
    · rw [if_pos hquote] at h ⊢
      have hlength : after.length + 1 ≤ (after ++ tail).length + 1 := by simp
      cases hname : readString (after.length + 1) (some []) after with
      | stopped unpaired flaw =>
        rw [hname] at h
        cases unpaired <;> cases h
      | closed text left =>
        rw [hname] at h
        rw [readString_append hname hlength tail]
        dsimp only at h ⊢
        cases hskip : skipBlanks left with
        | nil =>
          rw [hskip] at h
          cases h
        | cons d more =>
          by_cases hcolon : d = ':'
          · subst hcolon
            simp only [hskip] at h
            simp only [skipBlanks_append hskip]
            rcases hvalue : readValue fuel more with ⟨v, _ | left'⟩
            · rw [hvalue] at h
              cases h
            · rw [hvalue] at h
              dsimp only at h
              rcases hmembers : readMembers fuel false left' with ⟨members, ending', left''⟩
              rw [hmembers] at h
              cases h
              have hleft : left' ≠ [] := by
                rintro rfl
                cases fuel <;> cases hmembers
              rw [ih.value more v left' fuel' tail hvalue hfuel (.of_ne_nil hleft)]
              dsimp only
              rw [ih.members false left' members ending' rest fuel' tail hmembers hfuel]
          · simp [hskip, hcolon] at h
    · rw [if_neg hquote] at h
      cases h

end LocalWithin

theorem localWithin (fuel : Nat) : LocalWithin fuel := by
  induction fuel with
  | zero => exact localWithin_zero
  | succ fuel ih =>
    have hmore {fuel' : Nat} (hfuel : fuel + 1 ≤ fuel') : ∃ k, fuel' = k + 1 ∧ fuel ≤ k :=
      ⟨fuel' - 1, by omega, by omega⟩
    refine ⟨?_, ?_, ?_, ?_, ?_⟩
    · intro cs d rest fuel' tail h hfuel hdivided
      obtain ⟨k, rfl, hk⟩ := hmore hfuel
      exact ih.value_succ h hk hdivided
    · intro first cs ds ending rest fuel' tail h hfuel
      obtain ⟨k, rfl, hk⟩ := hmore hfuel
      exact ih.items_succ h hk tail
    · intro cs ds ending rest fuel' tail h hfuel
      obtain ⟨k, rfl, hk⟩ := hmore hfuel
      exact ih.item_succ h hk tail
    · intro first cs ms ending rest fuel' tail h hfuel
      obtain ⟨k, rfl, hk⟩ := hmore hfuel
      exact ih.members_succ h hk tail
    · intro cs ms ending rest fuel' tail h hfuel
      obtain ⟨k, rfl, hk⟩ := hmore hfuel
      exact ih.member_succ h hk tail

/-- **A value is read the same wherever it stands**, if it is divided from what follows, and with
more steps. -/
theorem readValue_append {d : Document} (h : readValue fuel cs = (d, some rest))
    (hfuel : fuel ≤ fuel') (hdivided : Divided rest tail) :
    readValue fuel' (cs ++ tail) = (d, some (rest ++ tail)) :=
  (localWithin fuel).value cs d rest fuel' tail h hfuel hdivided

end FlagReplica.Document
