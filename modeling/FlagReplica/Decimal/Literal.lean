import FlagReplica.Decimal.Binary64
import FlagReplica.Text.Digits
/-!
# Numbers written by people

The two notations that a flag's value may be written in: an integer of sixty-four bits, and a
decimal number with an optional point and exponent, or one of the names of what is no real number.
A sign of either kind may come first. Nothing may stand before or after, and there is no grouping of
digits. A decimal is the number nearest to it, so one that is too large is infinite.
-/

namespace FlagReplica.Decimal

open FlagReplica.Text

/-- The sign a text starts with, and the rest. -/
def splitSign : List Char → Bool × List Char
  | '-' :: cs => (true, cs)
  | '+' :: cs => (false, cs)
  | cs => (false, cs)

/-- The smallest integer of sixty-four bits with a sign. -/
def minInt64 : Int := -0x8000000000000000

/-- The largest integer of sixty-four bits with a sign. -/
def maxInt64 : Int := 0x7FFFFFFFFFFFFFFF

/-- The integer that a text writes, if it is one of sixty-four bits. -/
def int64? (cs : List Char) : Option Int := do
  let (negative, digits) := splitSign cs
  let n ← ofDigits? 10 digits
  let i : Int := if negative then -n else n
  if minInt64 ≤ i ∧ i ≤ maxInt64 then some i else none

/-- An exponent: a sign and digits, which may be many. -/
def exponent? (cs : List Char) : Option Int := do
  let (negative, digits) := splitSign cs
  let n ← ofDigits? 10 digits
  some (if negative then -n else n)

/-- The digits and the power of ten of a decimal without a sign. -/
def magnitude? (cs : List Char) : Option (Nat × Int) := do
  let (whole, rest) := spanDigits 10 cs
  let (fraction, rest) := match rest with
    | '.' :: rest => spanDigits 10 rest
    | rest => ([], rest)
  let digits ← ofDigits? 10 (whole ++ fraction)
  let exponent ← match rest with
    | [] => some 0
    | c :: rest => if c = 'e' ∨ c = 'E' then exponent? rest else none
  some (digits, exponent - fraction.length)

/-- The number that a text writes, if it writes one. -/
def number? (cs : List Char) : Option Binary64 :=
  let (negative, rest) := splitSign cs
  let name := rest.map Char.toLower
  if name = "inf".toList ∨ name = "infinity".toList then some (.infinity negative)
  else if name = "nan".toList then some .nan
  else (magnitude? rest).map fun (digits, exponent) => .ofDecimal negative digits exponent

end FlagReplica.Decimal
