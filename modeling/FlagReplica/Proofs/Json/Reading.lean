import FlagReplica.Json.Codec
import Mathlib.Data.List.Basic
/-!
# What is written can be read

The text of a value, read again, is the document of that value, and what follows the value is left
over (`Json.Plain.readable`). That is said of values in which every number is a small integer, for
these are what the codecs of the library write.

The reader counts its steps. Three for each character are enough: an item takes two more than what
it holds, and comes with a comma or a bracket.
-/

namespace FlagReplica

/-! ## Digits -/

namespace Text

variable {c : Char} {ds rest : List Char}

theorem digitValue?_of_isDigit (h : c.isDigit) : digitValue? c = some (c.toNat - '0'.toNat) := by
  rw [Char.isDigit_iff_toNat] at h
  exact if_pos h

theorem isDigitOf_of_isDigit (h : c.isDigit) : isDigitOf 10 c = true := by
  rw [isDigitOf, digitValue?_of_isDigit h]
  have := (Char.isDigit_iff_toNat.mp h).2
  simp only [decide_eq_true_eq]
  change c.toNat ≤ 57 at this
  change c.toNat - 48 < 10
  omega

theorem spanDigits_digits_append (hds : ∀ d ∈ ds, isDigitOf 10 d = true)
    (hrest : ∀ c ∈ rest.head?, isDigitOf 10 c = false) :
    spanDigits 10 (ds ++ rest) = (ds, rest) := by
  rw [spanDigits, List.takeWhile_append_of_pos hds, List.dropWhile_append_of_pos hds]
  cases rest with
  | nil => simp
  | cons c rest => simp [hrest c rfl]

/-- The digits that are written of a number are worth the number. -/
theorem appendDigits_toDigits (n : Nat) : appendDigits 10 0 (Nat.toDigits 10 n) = n := by
  calc appendDigits 10 0 (Nat.toDigits 10 n)
      = Nat.ofDigitChars 10 (Nat.toDigits 10 n) 0 := by
        rw [Nat.ofDigitChars_eq_foldl]
        refine List.foldl_ext _ _ _ fun sofar d hd => ?_
        have hdigit : d.isDigit := Nat.isDigit_of_mem_toDigits (by decide) (by decide) hd
        rw [digitValue?_of_isDigit hdigit, Nat.mul_comm]
        rfl
    _ = n := Nat.ofDigitChars_ten_toDigits

/-- No number but zero starts with a zero. -/
theorem toDigits_ne_zero_cons {n : Nat} (hn : n ≠ 0) : Nat.toDigits 10 n ≠ '0' :: ds := by
  induction n using Nat.strongRecOn generalizing ds with
  | ind n ih =>
    rw [Nat.toDigits_eq_if (by decide)]
    split
    · next hlt =>
      have : ∀ m < 10, m ≠ 0 → Nat.digitChar m ≠ '0' := by decide
      simp [this n hlt hn]
    · next hge =>
      -- the first digit is that of the number without its last digit, which is not zero either
      intro h
      cases hdigits : Nat.toDigits 10 (n / 10) with
      | nil => exact Nat.toDigits_ne_nil hdigits
      | cons d more =>
        rw [hdigits, List.cons_append, List.cons.injEq] at h
        exact ih (n / 10) (by omega) (by omega) (hdigits.trans (by rw [h.1]))

end Text

namespace Document

/-! ## Where a value ends -/

/-- A text in which a value cannot go on: it is at its end, or at a comma or a bracket that closes.
-/
def Stops (rest : List Char) : Prop := ∀ c ∈ rest.head?, c = ',' ∨ c = ']' ∨ c = '}'

variable {rest cs : List Char} {c : Char} {fuel n : Nat}

theorem Stops.nil : Stops [] := fun _ hc => by cases hc

theorem Stops.cons (h : c = ',' ∨ c = ']' ∨ c = '}') : Stops (c :: cs) := by
  rintro d hd
  cases hd
  exact h

theorem skipBlanks_cons (h : isBlank c = false) : skipBlanks (c :: cs) = c :: cs :=
  List.dropWhile_cons_of_neg (by simp [h])

/-! ## Numbers -/

/-- **An integer is read up to where it ends.** -/
theorem readNumber_toDigits (negative : Bool) (hrest : Stops rest)
    (hsmall : Number.isSmall (if negative then -n else n)) (hzero : negative → n ≠ 0) :
    readNumber negative (Nat.toDigits 10 n ++ rest) =
      .ok (.int (if negative then -n else n), rest) := by
  have hdigits : ∀ d ∈ Nat.toDigits 10 n, Text.isDigitOf 10 d = true := fun d hd =>
    Text.isDigitOf_of_isDigit (Nat.isDigit_of_mem_toDigits (by decide) (by decide) hd)
  have hspan : Text.spanDigits 10 (Nat.toDigits 10 n ++ rest) = (Nat.toDigits 10 n, rest) := by
    refine Text.spanDigits_digits_append hdigits fun c hc => ?_
    rcases hrest c hc with rfl | rfl | rfl <;> decide
  have hread : readDigits (Nat.toDigits 10 n ++ rest) = .ok (Nat.toDigits 10 n, rest) := by
    rw [readDigits, hspan]
    cases hds : Nat.toDigits 10 n with
    | nil => exact absurd hds Nat.toDigits_ne_nil
    | cons d ds => rfl
  -- more than one digit never starts with a zero
  have hwhole : readWhole (Nat.toDigits 10 n ++ rest) = .ok (Nat.toDigits 10 n, rest) := by
    rw [readWhole, hread]
    dsimp only [bind, Except.bind]
    split
    · next d ds hds =>
      obtain rfl | hn := eq_or_ne n 0
      · cases hds
      · exact absurd hds (Text.toDigits_ne_zero_cons hn)
    · rfl
  -- what follows goes on neither with a fraction nor with an exponent
  have hfraction : readFraction rest = .ok (none, rest) := by
    cases rest with
    | nil => rfl
    | cons c cs => rcases hrest c rfl with rfl | rfl | rfl <;> rfl
  have hexponent : readExponent rest = .ok (none, rest) := by
    cases rest with
    | nil => rfl
    | cons c cs => rcases hrest c rfl with rfl | rfl | rfl <;> rfl
  rw [readNumber, hwhole]
  change ((readFraction rest).bind _) = _
  rw [hfraction]
  change ((readExponent rest).bind _) = _
  rw [hexponent]
  simp only [Except.bind, numberOf]
  have hint : (!(negative && n == 0)) = true := by
    cases negative with
    | false => rfl
    | true => simpa using hzero rfl
  rw [Text.appendDigits_toDigits, hsmall, hint]
  rfl

/-! ## Strings -/

theorem readHex4_digits {a b c d : Char} (h : Text.ofDigits? 16 [a, b, c, d] = some n) :
    readHex4 (a :: b :: c :: d :: rest) = .ok (n, rest) := by
  have hbytes : ¬ bytesUpTo 4 (a :: b :: c :: d :: rest) < 4 := by
    have ha := a.utf8Size_pos
    have hb := b.utf8Size_pos
    have hc := c.utf8Size_pos
    have hd := d.utf8Size_pos
    simp only [bytesUpTo]
    omega
  rw [readHex4, if_neg hbytes, h]

/-- A control character is read from its code. -/
theorem readCode_control (h : c.toNat < 0x20) :
    readCode ('0' :: '0' :: Nat.digitChar (c.toNat / 16) :: Nat.digitChar (c.toNat % 16) :: cs) =
      .ok (some c, cs) := by
  -- there are only so many codes, and each is found in its two digits
  have hdigits : ∀ n < 0x20, Text.ofDigits? 16
      ['0', '0', Nat.digitChar (n / 16), Nat.digitChar (n % 16)] = some n := by decide
  rw [readCode, readHex4_digits (hdigits _ h)]
  change (if c.toNat < 0xD800 ∨ 0xDFFF < c.toNat then
    pure (some (Char.ofNat c.toNat), cs) else _ : Except Flaw _) = _
  rw [if_pos (by omega), Char.ofNat_toNat]
  rfl

/-- **A character is read from its escape.** -/
theorem readString_escapeChar (c : Char) (acc : List Char) :
    readString (fuel + 1) (some acc) (Json.escapeChar c ++ cs) =
      readString fuel (some (c :: acc)) cs := by
  -- seven characters have an escape of their own, control characters have their code, and all
  -- others stand for themselves
  unfold Json.escapeChar
  split
  · next h => subst h; rfl
  split
  · next h => subst h; rfl
  split
  · next h => subst h; rfl
  split
  · next h => subst h; rfl
  split
  · next h => subst h; rfl
  split
  · next h => subst h; rfl
  split
  · next h => subst h; rfl
  split
  · next hcontrol =>
    simp only [List.cons_append, List.nil_append, readString, readCode_control hcontrol]
    rfl
  · next hquote hslash _ _ _ _ _ hplain =>
    rw [List.cons_append, List.nil_append]
    simp only [readString, if_neg hquote, if_neg hslash, if_neg hplain, Option.map_some]

/-- **A string is read from its literal.** -/
theorem readString_flatMap (text : List Char) (acc : List Char) (h : text.length < fuel) :
    readString fuel (some acc) (text.flatMap Json.escapeChar ++ '"' :: rest) =
      .closed (some (String.ofList (acc.reverse ++ text))) rest := by
  induction text generalizing fuel acc with
  | nil =>
    obtain ⟨fuel, rfl⟩ : ∃ k, fuel = k + 1 := Nat.exists_eq_succ_of_ne_zero (by omega)
    rw [List.append_nil]
    rfl
  | cons c text ih =>
    obtain ⟨fuel, rfl⟩ : ∃ k, fuel = k + 1 := Nat.exists_eq_succ_of_ne_zero (by omega)
    rw [List.flatMap_cons, List.append_assoc, readString_escapeChar,
      ih _ (by simpa using h), List.reverse_cons, List.append_assoc, List.singleton_append]

theorem length_le_length_flatMap_escapeChar (text : List Char) :
    text.length ≤ (text.flatMap Json.escapeChar).length := by
  induction text with
  | nil => exact Nat.le_refl 0
  | cons c text ih =>
    have hone : 1 ≤ (Json.escapeChar c).length := by
      unfold Json.escapeChar
      repeat' split
      all_goals simp
    rw [List.flatMap_cons, List.length_append, List.length_cons]
    omega

/-- The literal after its opening quote, with as many steps as the reader allows itself. -/
theorem readString_literal (s : String) (rest : List Char) :
    let cs := s.toList.flatMap Json.escapeChar ++ '"' :: rest
    readString (cs.length + 1) (some []) cs = .closed (some s) rest := by
  intro cs
  have hlength := length_le_length_flatMap_escapeChar s.toList
  have hfuel : s.toList.length < cs.length + 1 := by
    simp only [cs, List.length_append]
    omega
  rw [readString_flatMap s.toList [] hfuel, List.reverse_nil, List.nil_append, String.ofList_toList]

/-! ## Values -/

/-- The text of a value can be read, whatever follows it that a value cannot go on with. -/
structure Readable (j : Json) : Prop where
  head : ∃ c cs, j.write = c :: cs ∧ isBlank c = false ∧ c ≠ ']'
  read : ∀ rest fuel, Stops rest → 3 * j.write.length ≤ fuel →
    readValue fuel (j.write ++ rest) = (ofJson j, some rest)

variable {j : Json}

/-- A text that is not empty leaves the reader steps for what it holds. -/
theorem exists_fuel (h : 3 * (c :: cs).length ≤ fuel) :
    ∃ k, fuel = k + 1 ∧ 3 * cs.length + 2 ≤ k := by
  rw [List.length_cons] at h
  exact ⟨fuel - 1, by omega, by omega⟩

theorem readable_null : Readable .null where
  head := ⟨'n', _, rfl, rfl, by decide⟩
  read rest fuel _ hfuel := by
    obtain ⟨fuel, rfl, -⟩ := exists_fuel hfuel
    rfl

theorem readable_bool (b : Bool) : Readable (.bool b) where
  head := by
    cases b with
    | true => exact ⟨'t', _, rfl, rfl, by decide⟩
    | false => exact ⟨'f', _, rfl, rfl, by decide⟩
  read rest fuel _ hfuel := by
    cases b with
    | true =>
      obtain ⟨fuel, rfl, -⟩ := exists_fuel hfuel
      rfl
    | false =>
      obtain ⟨fuel, rfl, -⟩ := exists_fuel hfuel
      rfl

theorem readValue_quote {s : String}
    (h : readString (cs.length + 1) (some []) cs = .closed (some s) rest) :
    readValue (fuel + 1) ('"' :: cs) = (.string s, some rest) := by
  rw [readValue, skipBlanks_cons rfl]
  dsimp only
  rw [if_pos rfl, h]

theorem readValue_minus {number : Number} (h : readNumber true cs = .ok (number, rest)) :
    readValue (fuel + 1) ('-' :: cs) = (.number number, some rest) := by
  rw [readValue, skipBlanks_cons rfl]
  dsimp only
  rw [if_neg (by decide), if_neg (by decide), if_neg (by decide), if_pos rfl, h]

theorem ne_of_isDigit {d : Char} (hc : c.isDigit) (hd : d.isDigit = false) : c ≠ d := by
  rintro rfl
  exact absurd hc (by simp [hd])

theorem isBlank_of_isDigit (hc : c.isDigit) : isBlank c = false := by
  simp [isBlank, ne_of_isDigit hc (d := ' ') rfl, ne_of_isDigit hc (d := '\n') rfl,
    ne_of_isDigit hc (d := '\t') rfl, ne_of_isDigit hc (d := '\r') rfl]

theorem readValue_digit {number : Number} (hc : c.isDigit)
    (h : readNumber false (c :: cs) = .ok (number, rest)) :
    readValue (fuel + 1) (c :: cs) = (.number number, some rest) := by
  rw [readValue, skipBlanks_cons (isBlank_of_isDigit hc)]
  dsimp only
  rw [if_neg (ne_of_isDigit hc rfl), if_neg (ne_of_isDigit hc rfl),
    if_neg (ne_of_isDigit hc rfl), if_neg (ne_of_isDigit hc rfl),
    if_pos (Text.isDigitOf_of_isDigit hc), h]

theorem readable_string (s : String) : Readable (.string s) where
  head := ⟨'"', _, rfl, rfl, by decide⟩
  read rest fuel _ hfuel := by
    obtain ⟨fuel, rfl, -⟩ := exists_fuel hfuel
    have htext : (Json.string s).write ++ rest =
        '"' :: (s.toList.flatMap Json.escapeChar ++ '"' :: rest) := by
      simp [Json.write, Json.writeString]
    rw [htext]
    exact readValue_quote (readString_literal s rest)

theorem readable_int {i : Int} (hsmall : Number.isSmall i) : Readable (.number (.int i)) := by
  cases i with
  | ofNat n =>
    have hwrite : (Json.number (.int (.ofNat n))).write = Nat.toDigits 10 n := by
      simp [Json.write, Number.write, Text.decimalInt, Text.decimal]
    cases hdigits : Nat.toDigits 10 n with
    | nil => exact absurd hdigits Nat.toDigits_ne_nil
    | cons d ds =>
      have hdigit : d.isDigit := Nat.isDigit_of_mem_toDigits (by decide : 0 < 10) (by decide)
        (hdigits ▸ List.mem_cons_self)
      rw [hdigits] at hwrite
      refine ⟨⟨d, ds, hwrite, isBlank_of_isDigit hdigit, ne_of_isDigit hdigit rfl⟩,
        fun rest fuel hrest hfuel => ?_⟩
      rw [hwrite] at hfuel ⊢
      obtain ⟨fuel, rfl, -⟩ := exists_fuel hfuel
      have hnumber := readNumber_toDigits (n := n) false hrest hsmall nofun
      rw [hdigits] at hnumber
      exact readValue_digit hdigit hnumber
  | negSucc n =>
    have hwrite : (Json.number (.int (.negSucc n))).write = '-' :: Nat.toDigits 10 (n + 1) := by
      simp [Json.write, Number.write, Text.decimalInt, Text.decimal]
    refine ⟨⟨'-', _, hwrite, rfl, by decide⟩, fun rest fuel hrest hfuel => ?_⟩
    rw [hwrite] at hfuel ⊢
    obtain ⟨fuel, rfl, -⟩ := exists_fuel hfuel
    exact readValue_minus (readNumber_toDigits true hrest hsmall fun _ => Nat.succ_ne_zero n)

/-! ## Items and members -/

section Lists

variable {d : Document} {ending : Ending} {after : Option (List Char)}

theorem readItems_close (fuel : Nat) (first : Bool) (rest : List Char) :
    readItems (fuel + 1) first (']' :: rest) = ([], .closed, some rest) := by
  cases first <;> rfl

theorem readItems_open (hblank : isBlank c = false) (hclose : c ≠ ']') :
    readItems (fuel + 1) true (c :: cs) = readItem fuel (c :: cs) := by
  rw [readItems, skipBlanks_cons hblank]
  exact if_neg hclose

theorem readItems_comma (hblank : isBlank c = false) :
    readItems (fuel + 1) false (',' :: c :: cs) = readItem fuel (c :: cs) := by
  rw [readItems, skipBlanks_cons (by decide)]
  dsimp only
  rw [if_neg (by decide), if_neg (by decide), if_pos rfl, skipBlanks_cons hblank]

theorem readItem_of_read {items : List Document} (h : readValue fuel cs = (d, some rest))
    (hrest : readItems fuel false rest = (items, ending, after)) :
    readItem (fuel + 1) cs = (d :: items, ending, after) := by
  rw [readItem, h]
  dsimp only
  rw [hrest]

theorem readMembers_close (fuel : Nat) (first : Bool) (rest : List Char) :
    readMembers (fuel + 1) first ('}' :: rest) = ([], .closed, some rest) := by
  cases first <;> rfl

theorem readMembers_open (fuel : Nat) (cs : List Char) :
    readMembers (fuel + 1) true ('"' :: cs) = readMember fuel ('"' :: cs) := rfl

theorem readMembers_comma (fuel : Nat) (cs : List Char) :
    readMembers (fuel + 1) false (',' :: '"' :: cs) = readMember fuel ('"' :: cs) := rfl

theorem readMember_of_read {members : List (Label × Document)} {k : String}
    (h : readValue fuel cs = (d, some rest))
    (hrest : readMembers fuel false rest = (members, ending, after)) :
    readMember (fuel + 1) (Json.writeString k ++ ':' :: cs) =
      ((.name k, d) :: members, ending, after) := by
  have htext : Json.writeString k ++ ':' :: cs =
      '"' :: (k.toList.flatMap Json.escapeChar ++ '"' :: ':' :: cs) := by
    simp [Json.writeString]
  rw [htext, readMember, if_pos rfl, readString_literal k (':' :: cs)]
  simp only [skipBlanks_cons (show isBlank ':' = false from rfl), h, hrest]

end Lists

theorem exists_writeItems {k : Json} (hk : k.write = c :: cs) (items : List Json)
    (tail : List Char) : ∃ ds, Json.writeItems (k :: items) ++ tail = c :: ds := by
  cases items with
  | nil => exact ⟨cs ++ tail, by simp [Json.writeItems, hk]⟩
  | cons i items =>
    exact ⟨cs ++ ',' :: (Json.writeItems (i :: items) ++ tail), by simp [Json.writeItems, hk]⟩

theorem exists_writeMembers (k : String × Json) (members : List (String × Json))
    (tail : List Char) : ∃ ds, Json.writeMembers (k :: members) ++ tail = '"' :: ds := by
  cases members with
  | nil => exact ⟨_, rfl⟩
  | cons m members => exact ⟨_, rfl⟩

/-- **Items are read one after the other**, from the first one. -/
theorem readItem_writeItems {items : List Json} (h : ∀ i ∈ j :: items, Readable i)
    (hfuel : 3 * (Json.writeItems (j :: items)).length + 2 ≤ fuel) :
    readItem fuel (Json.writeItems (j :: items) ++ ']' :: rest) =
      (ofItems (j :: items), .closed, some rest) := by
  induction items generalizing j fuel with
  | nil =>
    -- of the two steps to spare, one is for the item and one for the bracket
    obtain ⟨fuel, rfl⟩ : ∃ k, fuel = k + 2 := ⟨fuel - 2, by omega⟩
    have hlength : 3 * j.write.length ≤ fuel + 1 := by
      simp only [Json.writeItems] at hfuel
      omega
    exact readItem_of_read ((h j List.mem_cons_self).read _ _ (.cons (by simp)) hlength)
      (readItems_close fuel false rest)
  | cons k items ih =>
    obtain ⟨c, cs, hk, hblank, -⟩ := (h k (by simp)).head
    -- an item is not empty, and its characters pay for the steps from one item to the next
    have hj : 1 ≤ j.write.length := by
      obtain ⟨d, ds, hj, -⟩ := (h j List.mem_cons_self).head
      simp [hj]
    have hwrite : Json.writeItems (j :: k :: items) =
        j.write ++ ',' :: Json.writeItems (k :: items) := by
      simp [Json.writeItems]
    rw [hwrite, List.length_append, List.length_cons] at hfuel
    obtain ⟨fuel, rfl⟩ : ∃ k, fuel = k + 2 := ⟨fuel - 2, by omega⟩
    have hrest : readItem fuel (Json.writeItems (k :: items) ++ ']' :: rest) = _ :=
      ih (fun i hi => h i (List.mem_cons_of_mem j hi)) (by omega)
    rw [hwrite, List.append_assoc, List.cons_append]
    refine readItem_of_read ((h j List.mem_cons_self).read _ _ (.cons (by simp)) (by omega)) ?_
    obtain ⟨ds, hds⟩ := exists_writeItems hk items (']' :: rest)
    rw [hds] at hrest ⊢
    rw [readItems_comma hblank, hrest]

/-- **Members are read one after the other**, from the first one. -/
theorem readMember_writeMembers {m : String × Json} {members : List (String × Json)}
    (h : ∀ i ∈ m :: members, Readable i.2)
    (hfuel : 3 * (Json.writeMembers (m :: members)).length + 2 ≤ fuel) :
    readMember fuel (Json.writeMembers (m :: members) ++ '}' :: rest) =
      (ofMembers (m :: members), .closed, some rest) := by
  induction members generalizing m fuel with
  | nil =>
    have hwrite : Json.writeMembers [m] = Json.writeString m.1 ++ ':' :: m.2.write := by
      simp [Json.writeMembers]
    rw [hwrite, List.length_append, List.length_cons] at hfuel
    obtain ⟨fuel, rfl⟩ : ∃ k, fuel = k + 2 := ⟨fuel - 2, by omega⟩
    rw [hwrite, List.append_assoc, List.cons_append]
    exact readMember_of_read
      ((h m List.mem_cons_self).read _ _ (.cons (by simp)) (by omega))
      (readMembers_close fuel false rest)
  | cons k members ih =>
    have hwrite : Json.writeMembers (m :: k :: members) =
        Json.writeString m.1 ++ ':' :: (m.2.write ++ ',' :: Json.writeMembers (k :: members)) := by
      simp [Json.writeMembers]
    rw [hwrite, List.length_append, List.length_cons, List.length_append, List.length_cons] at hfuel
    obtain ⟨fuel, rfl⟩ : ∃ k, fuel = k + 2 := ⟨fuel - 2, by omega⟩
    have hrest : readMember fuel (Json.writeMembers (k :: members) ++ '}' :: rest) = _ :=
      ih (fun i hi => h i (List.mem_cons_of_mem m hi)) (by omega)
    rw [hwrite, List.append_assoc, List.cons_append, List.append_assoc, List.cons_append]
    refine readMember_of_read
      ((h m List.mem_cons_self).read _ _ (.cons (by simp)) (by omega)) ?_
    obtain ⟨ds, hds⟩ := exists_writeMembers k members ('}' :: rest)
    rw [hds] at hrest ⊢
    rw [readMembers_comma, hrest]

theorem readValue_bracket {items : List Document}
    (h : readItems fuel true cs = (items, .closed, some rest)) :
    readValue (fuel + 1) ('[' :: cs) = (.array items .closed, some rest) := by
  change ((.array (readItems fuel true cs).1 (readItems fuel true cs).2.1,
    (readItems fuel true cs).2.2) : Document × Option (List Char)) = _
  rw [h]

theorem readValue_brace {members : List (Label × Document)}
    (h : readMembers fuel true cs = (members, .closed, some rest)) :
    readValue (fuel + 1) ('{' :: cs) = (.object members .closed, some rest) := by
  change ((.object (readMembers fuel true cs).1 (readMembers fuel true cs).2.1,
    (readMembers fuel true cs).2.2) : Document × Option (List Char)) = _
  rw [h]

theorem readable_array {items : List Json} (h : ∀ i ∈ items, Readable i) :
    Readable (.array items) where
  head := ⟨'[', _, rfl, rfl, by decide⟩
  read rest fuel _ hfuel := by
    have hwrite : (Json.array items).write = '[' :: (Json.writeItems items ++ [']']) := by
      rw [Json.write]
    rw [hwrite] at hfuel ⊢
    obtain ⟨fuel, rfl, hsteps⟩ := exists_fuel hfuel
    rw [List.length_append, List.length_singleton] at hsteps
    obtain ⟨fuel, rfl⟩ : ∃ k, fuel = k + 1 := ⟨fuel - 1, by omega⟩
    rw [List.cons_append, List.append_assoc, List.singleton_append]
    refine readValue_bracket ?_
    cases items with
    | nil => exact readItems_close fuel true rest
    | cons i items =>
      obtain ⟨c, cs, hi, hblank, hclose⟩ := (h i List.mem_cons_self).head
      have hitems : readItem fuel (Json.writeItems (i :: items) ++ ']' :: rest) = _ :=
        readItem_writeItems h (by omega)
      obtain ⟨ds, hds⟩ := exists_writeItems hi items (']' :: rest)
      rw [hds] at hitems ⊢
      rw [readItems_open hblank hclose, hitems]

theorem readable_object {members : List (String × Json)} (h : ∀ m ∈ members, Readable m.2) :
    Readable (.object members) where
  head := ⟨'{', _, rfl, rfl, by decide⟩
  read rest fuel _ hfuel := by
    have hwrite : (Json.object members).write = '{' :: (Json.writeMembers members ++ ['}']) := by
      rw [Json.write]
    rw [hwrite] at hfuel ⊢
    obtain ⟨fuel, rfl, hsteps⟩ := exists_fuel hfuel
    rw [List.length_append, List.length_singleton] at hsteps
    obtain ⟨fuel, rfl⟩ : ∃ k, fuel = k + 1 := ⟨fuel - 1, by omega⟩
    rw [List.cons_append, List.append_assoc, List.singleton_append]
    refine readValue_brace ?_
    cases members with
    | nil => exact readMembers_close fuel true rest
    | cons m members =>
      have hmembers : readMember fuel (Json.writeMembers (m :: members) ++ '}' :: rest) = _ :=
        readMember_writeMembers h (by omega)
      obtain ⟨ds, hds⟩ := exists_writeMembers m members ('}' :: rest)
      rw [hds] at hmembers ⊢
      rw [readMembers_open, hmembers]

end Document

/-! ## Plain values -/

/-- Every number of the value is a small integer, and its brackets are at most so many levels deep.
-/
inductive Json.Plain : Nat → Json → Prop
  | null {levels : Nat} : Plain levels .null
  | bool {levels : Nat} (b : Bool) : Plain levels (.bool b)
  | int {levels : Nat} {i : Int} (h : Number.isSmall i) : Plain levels (.number (.int i))
  | string {levels : Nat} (s : String) : Plain levels (.string s)
  | array {levels : Nat} {items : List Json} (h : ∀ i ∈ items, Plain levels i) :
    Plain (levels + 1) (.array items)
  | object {levels : Nat} {members : List (String × Json)} (h : ∀ m ∈ members, Plain levels m.2) :
    Plain (levels + 1) (.object members)

namespace Json.Plain

variable {levels : Nat} {j : Json}

theorem readable (h : j.Plain levels) : Document.Readable j := by
  induction h with
  | null => exact Document.readable_null
  | bool b => exact Document.readable_bool b
  | int h => exact Document.readable_int h
  | string s => exact Document.readable_string s
  | array _ ih => exact Document.readable_array ih
  | object _ ih => exact Document.readable_object ih

/-- **A value that is written and read again** is the document of the value. -/
theorem read_render (h : j.Plain levels) :
    Document.read j.render.toList = (Document.ofJson j, some []) := by
  rw [Document.read, Json.render, String.toList_ofList]
  have hread := h.readable.read [] (3 * j.write.length + 3) .nil (by omega)
  rwa [List.append_nil] at hread

end Json.Plain

end FlagReplica
