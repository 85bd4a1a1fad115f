/-!
# Numbers of the binary64 format

A number is its sixty-four bits, so that everything said of it (which reals it stands for, which is
larger, which number is nearest to a ratio) is said in exact integer arithmetic. `ofRatio` is the
one rounding of the library: to nearest, and of two nearest to the one with an even significand.
-/

namespace FlagReplica

/-- A number of the binary64 format, by its bits: sign, eleven bits of exponent, fifty-two of
fraction. -/
structure Binary64 where
  bits : UInt64
  deriving DecidableEq, Repr, Inhabited

namespace Binary64

/-- The bit of the sign, which is `2 ^ 63`. -/
def signBit : Nat := 0x8000000000000000

/-- What a step of the exponent adds to a magnitude: one more than the largest fraction, which is
`2 ^ 52`. -/
def exponentUnit : Nat := 0x10000000000000

/-- The bits without the sign. -/
def magnitude (x : Binary64) : Nat := x.bits.toNat % signBit

/-- Whether the sign bit is set. -/
def isNegative (x : Binary64) : Bool := signBit ≤ x.bits.toNat

/-- The magnitude of the infinities. Larger ones are no numbers. -/
def infinityMagnitude : Nat := 0x7FF * exponentUnit

/-- Whether the bits stand for no number. -/
def isNaN (x : Binary64) : Bool := infinityMagnitude < x.magnitude

/-- Whether the bits stand for a real number. -/
def isFinite (x : Binary64) : Bool := x.magnitude < infinityMagnitude

/-- The number with a sign and a magnitude. -/
def ofMagnitude (negative : Bool) (magnitude : Nat) : Binary64 :=
  ⟨UInt64.ofNat ((if negative then signBit else 0) + magnitude)⟩

/-- Positive zero. -/
def zero : Binary64 := ofMagnitude false 0

/-- The infinity of a sign. -/
def infinity (negative : Bool) : Binary64 := ofMagnitude negative infinityMagnitude

/-- The bits used for "no number". -/
def nan : Binary64 := ofMagnitude false (infinityMagnitude + exponentUnit / 2)

/-- The significand of a finite number. -/
def significand (x : Binary64) : Nat :=
  if x.magnitude < exponentUnit then x.magnitude else x.magnitude % exponentUnit + exponentUnit

/-- The exponent of a finite number: its magnitude is `significand * 2 ^ exponent`. -/
def exponent (x : Binary64) : Int :=
  if x.magnitude < exponentUnit then -1074 else (x.magnitude / exponentUnit : Nat) - 1075

/-- The magnitude with a significand below `2 ^ 53` and an exponent. A significand of `2 ^ 53`
spills over into the exponent, which is what rounding up a full one has to do. -/
def encode (significand : Nat) (exponent : Int) : Nat :=
  min ((exponent + 1074).toNat * exponentUnit + significand) infinityMagnitude

/-- The quotient rounded to an integer: to nearest, a half to even. -/
def roundDiv (num den : Nat) : Nat :=
  let q := num / den
  let r := num % den
  if den < 2 * r ∨ (den = 2 * r ∧ q % 2 = 1) then q + 1 else q

/-- The ratio times a power of two, as a ratio. -/
def scale (num den : Nat) (e : Int) : Nat × Nat :=
  if 0 ≤ e then (num <<< e.toNat, den) else (num, den <<< (-e).toNat)

/-- The exponent in which the ratio has a significand of at most fifty-three bits, and exactly so
many if it is not among the smallest numbers. -/
def ratioExponent (num den : Nat) : Int :=
  let e : Int := (num.log2 : Int) - den.log2 - 1
  let (a, b) := scale num den (-e)
  max ((if a < 2 * b then e else e + 1) - 52) (-1074)

/-- The number nearest to a ratio of integers, with the sign given. -/
def ofRatio (negative : Bool) (num den : Nat) : Binary64 :=
  if num = 0 then ofMagnitude negative 0
  else
    let q := ratioExponent num den
    let (a, b) := scale num den (-q)
    ofMagnitude negative (encode (roundDiv a b) q)

/-- The number nearest to an integer. -/
def ofInt (n : Int) : Binary64 := ofRatio (n < 0) n.natAbs 1

/-- The number nearest to `digits * 10 ^ exponent`. Exponents that leave the range whatever the
digits are not computed with. -/
def ofDecimal (negative : Bool) (digits : Nat) (exponent : Int) : Binary64 :=
  let size : Int := (Nat.toDigits 10 digits).length + exponent
  if digits = 0 ∨ size < -400 then ofMagnitude negative 0
  else if 400 < size then infinity negative
  else if 0 ≤ exponent then ofRatio negative (digits * Nat.pow 10 exponent.toNat) 1
  else ofRatio negative digits (Nat.pow 10 (-exponent).toNat)

/-- The number nearest to the product of two finite numbers. -/
def mul (x y : Binary64) : Binary64 :=
  let (a, b) := scale (x.significand * y.significand) 1 (x.exponent + y.exponent)
  ofRatio (x.isNegative != y.isNegative) a b

/-- The number nearest to the quotient of two finite numbers, the second of which is not zero. -/
def div (x y : Binary64) : Binary64 :=
  let (a, b) := scale x.significand y.significand (x.exponent - y.exponent)
  ofRatio (x.isNegative != y.isNegative) a b

/-- Where a number stands on the line: zeros of either sign stand at zero. -/
def orderKey (x : Binary64) : Int := if x.isNegative then -x.magnitude else x.magnitude

/-- The order of numbers. What is no number compares with nothing. -/
def compare? (x y : Binary64) : Option Ordering :=
  if x.isNaN || y.isNaN then none else some (compare x.orderKey y.orderKey)

/-- Whether two numbers stand at the same place. -/
def sameValue (x y : Binary64) : Bool := x.compare? y == some .eq

/-- The bits as sixteen hexadecimal digits. -/
def hexBits (x : Binary64) : String :=
  let ds := Nat.toDigits 16 x.bits.toNat
  String.ofList (List.replicate (16 - ds.length) '0' ++ ds)

example : (ofInt 1).bits = 0x3FF0000000000000 := by decide +kernel
example : (ofDecimal false 1 (-1)).bits = 0x3FB999999999999A := by decide +kernel
example : (ofDecimal true 5 (-324)).bits = 0x8000000000000001 := by decide +kernel
example : ofDecimal false 17976931348623159 292 = infinity false := by decide +kernel

end Binary64

end FlagReplica
