import FlagReplica.Decimal.Binary64
import FlagReplica.Text.Digits
/-!
# Decimals read in steps

The nearest number to a decimal takes exact arithmetic to find. A reader in a hurry takes the digits
into an integer of sixty-four bits as long as they fit, and then multiplies or divides by a power of
ten. Each step is rounded by itself, so what comes out is near the decimal and not always nearest to
it, and what is just below the end of the range may come out beyond it.

Exponents are exact here. They would have to pass thirty-one bits for that to make a difference, in
a text with as many zeros.
-/

namespace FlagReplica.Decimal

open FlagReplica.Text

/-- Takes digits into an integer up to the first with which it would pass sixty-four bits, and says
how many are left. -/
def takeDigits (n : Nat) : List Char → Nat × Nat
  | [] => (n, 0)
  | d :: ds =>
    let next := appendDigits 10 n [d]
    if next < 0x10000000000000000 then takeDigits next ds else (n, ds.length + 1)

/-- A power of ten, rounded. -/
def tenth (k : Nat) : Binary64 := .ofDecimal false 1 k

/-- The largest power of ten that there is a number for. -/
def maxPower : Nat := 308

/-- The number times a power of ten. -/
def scaleUp (x : Binary64) (k : Nat) : Binary64 :=
  if k ≤ maxPower then x.mul (tenth k)
  else if x.magnitude = 0 then x
  else .infinity x.isNegative

/-- The number divided by a power of ten, by one that there is a number for at a time. -/
def scaleDown (x : Binary64) (k : Nat) : Binary64 :=
  if k ≤ maxPower then x.div (tenth k)
  else if x.magnitude = 0 then x
  else scaleDown (x.div (tenth maxPower)) (k - maxPower)
termination_by k
decreasing_by simp only [maxPower] at *; omega

/-- What is read for the digits before and after a point and an exponent. Digits before the point
that are left count by their places, and those after it not at all. -/
def approximate (negative : Bool) (whole fraction : List Char) (exponent : Int) : Binary64 :=
  let (n, places) := takeDigits 0 whole
  let (n, dropped) := takeDigits n fraction
  let power : Int := exponent + places - (fraction.length - dropped : Nat)
  let x := Binary64.ofRatio negative n 1
  if 0 ≤ power then scaleUp x power.toNat else scaleDown x (-power).toNat

/-- A decimal of which the nearest number is another one. -/
example : approximate false ['1'] [] (-24) ≠ .ofDecimal false 1 (-24) := by decide +kernel

example : approximate true ['2'] ['5'] (-1) = .ofDecimal true 25 (-2) := by decide +kernel

end FlagReplica.Decimal
