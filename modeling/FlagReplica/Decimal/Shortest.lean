import FlagReplica.Decimal.Binary64
import FlagReplica.Text.Digits
/-!
# The shortest decimal of a number

The decimal with the fewest digits among those that read back as the number, and among those the
nearest. A finite number is read back from every real closer to it than to its neighbours, its
interval; for each count of digits there are two decimals next to the number, and if any of that
count lies in the interval then one of these two does. `shortest` takes the first count that has
one.

How the digits are then laid out is a `Layout`.
-/

namespace FlagReplica.Decimal

open FlagReplica.Text

/-- The reals that read back as a number, as ratios over a common denominator. -/
structure Interval where
  low : Nat
  value : Nat
  high : Nat
  den : Nat
  /-- Whether the ends read back as the number as well. -/
  closed : Bool

/-- The interval of a positive number. -/
def interval (x : Binary64) : Interval :=
  let m := x.significand
  let low := if m = Binary64.exponentUnit ∧ -1074 < x.exponent then 4 * m - 1 else 4 * m - 2
  let up := (x.exponent - 2).toNat
  ⟨low <<< up, (4 * m) <<< up, (4 * m + 2) <<< up, 1 <<< (2 - x.exponent).toNat, m % 2 == 0⟩

/-- Whether `n * unit`, with the unit a ratio, lies in the interval. -/
def Interval.holds (i : Interval) (n : Nat) (unit : Nat × Nat) : Bool :=
  let p := n * unit.1 * i.den
  if i.closed then i.low * unit.2 ≤ p && p ≤ i.high * unit.2
  else i.low * unit.2 < p && p < i.high * unit.2

/-- A power of ten as a ratio. -/
def tenPower (e : Int) : Nat × Nat := (Nat.pow 10 e.toNat, Nat.pow 10 (-e).toNat)

/-- The exponent of the leading digit of the interval's number. -/
def Interval.leading (i : Interval) : Int :=
  let low : Int := ((i.value.log2 : Int) - i.den.log2 - 1) * 30103 / 100000 - 1
  let reached (e : Int) : Bool := (tenPower e).1 * i.den ≤ i.value * (tenPower e).2
  if reached (low + 3) then low + 3
  else if reached (low + 2) then low + 2
  else if reached (low + 1) then low + 1
  else low

/-- The decimal on a grid that reads back, if there is one: the nearer of the two next to the
number, the even one if they are equally near. -/
def Interval.onGrid (i : Interval) (e : Int) : Option (Nat × Int) :=
  let unit := tenPower e
  let (num, den) := (i.value * unit.2, i.den * unit.1)
  let below := num / den
  let rest := num % den
  match i.holds below unit, i.holds (below + 1) unit with
  | true, true =>
    if 2 * rest < den ∨ (2 * rest = den ∧ below % 2 = 0) then some (below, e)
    else some (below + 1, e)
  | true, false => some (below, e)
  | false, true => some (below + 1, e)
  | false, false => none

/-- The digits and the power of ten of the shortest decimal of a positive number. The first grid is
one coarser than the leading digit, for a number just below a power of ten that reads back from that
power. -/
def shortest (x : Binary64) : Nat × Int :=
  let i := interval x
  let e := i.leading + 1
  ((List.range 18).findSome? fun n : Nat => i.onGrid (e - n)).getD (x.significand, 0)

/-- How digits are laid out as a number. -/
structure Layout where
  /-- Whether a number whose leading digit stands for this power of ten is written without an
  exponent. -/
  positional : Int → Bool
  /-- Whether a number without a fraction still has one digit after the point. -/
  keepsPoint : Bool

/-- Digits without an exponent: the point goes where it belongs, with zeros up to it. -/
def Layout.writePositional (l : Layout) (ds : List Char) (e : Int) : List Char :=
  if 0 ≤ e then
    ds ++ List.replicate e.toNat '0' ++ (if l.keepsPoint then ['.', '0'] else [])
  else
    let places := (-e).toNat
    let ds := List.replicate (places + 1 - ds.length) '0' ++ ds
    ds.take (ds.length - places) ++ '.' :: ds.drop (ds.length - places)

/-- Digits with an exponent: one before the point, and a power of ten with its sign and two digits
at least. -/
def writeScientific (ds : List Char) (leading : Int) : List Char :=
  let power := Nat.toDigits 10 leading.natAbs
  ds.take 1 ++ (if ds.length ≤ 1 then [] else '.' :: ds.drop 1)
    ++ ['e', if leading < 0 then '-' else '+'] ++ List.replicate (2 - power.length) '0' ++ power

/-- A number in a layout. -/
def Layout.write (l : Layout) (x : Binary64) : String :=
  if x.isNaN then "NaN"
  else
    let sign := if x.isNegative then ['-'] else []
    let body :=
      if x.magnitude = Binary64.infinityMagnitude then ['i', 'n', 'f']
      else if x.magnitude = 0 then l.writePositional ['0'] 0
      else
        let (digits, e) := shortest x
        let ds := Nat.toDigits 10 digits
        let leading := e + ds.length - 1
        if l.positional leading then l.writePositional ds e else writeScientific ds leading
    String.ofList (sign ++ body)

end FlagReplica.Decimal
