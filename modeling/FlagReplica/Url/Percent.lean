import FlagReplica.Text.Digits
/-!
# Percent-encoding

Bytes written as text: a byte that could be mistaken for a part of an address is written as a
percent sign and two digits. Which bytes those are depends on where in the address they stand.
Whatever the bytes, `decode_encode` reads them back, provided the percent sign is one that is
written so.
-/

namespace FlagReplica.Url

open FlagReplica.Text

/-- Which bytes of seven bits are written by their digits. All others always are. -/
abbrev Escaped := UInt8 → Bool

/-- A digit from ten up as a capital letter. -/
def hexDigit (n : Nat) : Char := (Nat.digitChar n).toUpper

/-- A byte by its digits. -/
def escapeByte (b : UInt8) : List Char := ['%', hexDigit (b.toNat / 16), hexDigit (b.toNat % 16)]

/-- Bytes as text. -/
def encode (escaped : Escaped) (bytes : List UInt8) : List Char :=
  bytes.flatMap fun b => if 0x80 ≤ b || escaped b then escapeByte b else [Char.ofNat b.toNat]

/-- The bytes of a text. -/
def utf8 (cs : List Char) : List UInt8 := (String.ofList cs).toUTF8.toList

/-- The bytes that a text writes. A percent sign without two digits stands for itself. -/
def decode : List Char → List UInt8
  | [] => []
  | '%' :: a :: b :: cs =>
    match digitValue? a, digitValue? b with
    | some x, some y => UInt8.ofNat (16 * x + y) :: decode cs
    | _, _ => 0x25 :: decode (a :: b :: cs)
  | c :: cs => (if c.toNat < 0x80 then [UInt8.ofNat c.toNat] else utf8 [c]) ++ decode cs

/-- A set of bytes by the characters in it, with the controls. -/
def controlsAnd (cs : List Char) : Escaped := fun b =>
  b < 0x20 || b == 0x7F || cs.any fun c => c.toNat == b.toNat

/-- What is escaped in a host of a scheme that is not known. -/
def hostEscapes : Escaped := controlsAnd []

/-- What is escaped in a fragment. -/
def fragmentEscapes : Escaped := controlsAnd [' ', '"', '<', '>', Char.ofNat 0x60]

/-- What is escaped in a query. With a scheme that is known the apostrophe is as well. -/
def queryEscapes (special : Bool) : Escaped :=
  controlsAnd ([' ', '"', '#', '<', '>'] ++ if special then ['\''] else [])

/-- What is escaped in a path. -/
def pathEscapes : Escaped :=
  controlsAnd [' ', '"', '<', '>', Char.ofNat 0x60, '#', '?', '\x7b', '\x7d']

/-- What is escaped in a single segment: what a path escapes, and what would end the segment or undo
the escaping. -/
def segmentEscapes (special : Bool) : Escaped := fun b =>
  pathEscapes b || b == 0x2F || b == 0x25 || (special && b == 0x5C)

/-- What is escaped in the name and the password of a user. -/
def userEscapes : Escaped := fun b =>
  pathEscapes b || ['/', ':', ';', '=', '@', '[', '\\', ']', '^', '|'].any fun c =>
    c.toNat == b.toNat

/-! ## Reading back -/

theorem digitValue?_hexDigit {n : Nat} (h : n < 16) : digitValue? (hexDigit n) = some n := by
  revert n
  decide

theorem decode_escapeByte (b : UInt8) (cs : List Char) :
    decode (escapeByte b ++ cs) = b :: decode cs := by
  have hb : b.toNat < 256 := b.toNat_lt
  have hhigh : b.toNat / 16 < 16 := by omega
  have hlow : b.toNat % 16 < 16 := by omega
  simp only [escapeByte, List.cons_append, List.nil_append, decode, digitValue?_hexDigit hhigh,
    digitValue?_hexDigit hlow, Nat.div_add_mod]
  simp

theorem decode_plain {b : UInt8} (h : b < 0x80) (hp : b ≠ 0x25) (cs : List Char) :
    decode (Char.ofNat b.toNat :: cs) = b :: decode cs := by
  have hb : b.toNat < 0x80 := UInt8.lt_iff_toNat_lt.mp h
  have hn : (Char.ofNat b.toNat).toNat = b.toNat := by
    rw [Char.ofNat, dif_pos (Or.inl (by omega : b.toNat < 0xd800))]
    rfl
  have hc : Char.ofNat b.toNat ≠ '%' := by
    intro hc
    apply hp
    apply UInt8.toNat_inj.mp
    rw [← hn, hc]
    rfl
  rw [decode]
  · simp [hn, hb]
  · rintro a c ds hcs
    exact absurd hcs hc

/-- **Bytes are read back as they were written.** -/
theorem decode_encode {escaped : Escaped} (h : escaped 0x25 = true) (bytes : List UInt8) :
    decode (encode escaped bytes) = bytes := by
  induction bytes with
  | nil => simp [encode, decode]
  | cons b bs ih =>
    have hcons : encode escaped (b :: bs) =
        (if 0x80 ≤ b || escaped b then escapeByte b else [Char.ofNat b.toNat])
          ++ encode escaped bs := by
      simp [encode]
    rw [hcons]
    by_cases hb : (decide (0x80 ≤ b) || escaped b) = true
    · rw [if_pos hb, decode_escapeByte, ih]
    · rw [if_neg hb, List.singleton_append]
      simp only [Bool.or_eq_true, decide_eq_true_eq, not_or] at hb
      rw [decode_plain (UInt8.not_le.mp hb.1) _ _, ih]
      rintro rfl
      exact hb.2 h

/-- A segment escapes the percent sign, so it is read back. -/
theorem segmentEscapes_percent (special : Bool) : segmentEscapes special 0x25 = true := by
  cases special <;> decide

end FlagReplica.Url
