import FlagReplica.Pattern.Expr
/-!
# The size of patterns

Repetitions within repetitions soon ask for more states than anyone would want to keep, so a pattern
has to be small when it is spelled out as an automaton on the bytes of its text: `Expr.size` is the
room that the automaton takes, and `Expr.maxSize` the room there is.

A character is one state for each byte. A set of characters is one state for each distinct beginning
of the byte ranges that `encodedRanges` splits it into.
-/

namespace FlagReplica.Pattern

open FlagReplica.Text

/-! ## Sets of characters as ranges of bytes -/

/-- The bytes of a character. -/
def encode (n : Nat) : List Nat :=
  if n < 0x80 then [n]
  else if n < 0x800 then [0xC0 + n / 0x40, 0x80 + n % 0x40]
  else if n < 0x10000 then [0xE0 + n / 0x1000, 0x80 + n / 0x40 % 0x40, 0x80 + n % 0x40]
  else [0xF0 + n / 0x40000, 0x80 + n / 0x1000 % 0x40, 0x80 + n / 0x40 % 0x40, 0x80 + n % 0x40]

/-- Where a range has to be split so that its bytes vary independently: where the number of bytes
changes, and else where a byte before the last does not go through all of its values. -/
def splitPoint? (first last : Nat) : Option Nat :=
  let byLength := [0x80, 0x800, 0x10000].find? fun k => first < k && k ≤ last
  byLength.or <|
    if last < 0x80 then none
    else [0x40, 0x1000, 0x40000].findSome? fun unit =>
      if first / unit = last / unit then none
      else if first % unit ≠ 0 then some ((first / unit + 1) * unit)
      else if last % unit ≠ unit - 1 then some (last / unit * unit)
      else none

/-- The ranges of bytes that a range of characters is made of, split so many times at most. -/
def splitRange : Nat → Nat → Nat → List (List (Nat × Nat))
  | 0, first, last => [(encode first).zip (encode last)]
  | splits + 1, first, last =>
    match splitPoint? first last with
    | some k => splitRange splits first (k - 1) ++ splitRange splits k last
    | none => [(encode first).zip (encode last)]

/-- The ranges of bytes that the characters of a set are made of. -/
def encodedRanges (s : CharSet) : List (List (Nat × Nat)) :=
  (CharSet.inter s CharSet.all).ranges.flatMap fun r => splitRange 16 r.1 r.2

/-- How long a beginning two lists share. -/
def sharedLength {α : Type} [DecidableEq α] : List α → List α → Nat
  | a :: as, b :: bs => if a = b then sharedLength as bs + 1 else 0
  | _, _ => 0

/-- How many distinct beginnings ascending lists have, but for those of the list before them. -/
def beginnings (before : List (Nat × Nat)) : List (List (Nat × Nat)) → Nat
  | [] => 0
  | r :: rs => r.length - sharedLength before r + beginnings r rs

/-! ## Room -/

/-- The room of one state. -/
def stateSize : Nat := 32

/-- The room of a state that leads to so many others. -/
def forkSize (branches : Nat) : Nat := stateSize + 4 * branches

/-- The room of a set of characters. -/
def setSize (s : CharSet) : Nat :=
  match s.ranges with
  | [] => stateSize
  | [r] =>
    if r.1 = r.2 then stateSize * (encode r.1).length
    else if r.2 < 0x80 then 2 * stateSize
    else wide
  | rs => if s.isAscii then 2 * stateSize + 8 * rs.length else wide
where
  wide : Nat :=
    let ranges := encodedRanges s
    stateSize + forkSize ranges.length + stateSize * beginnings [] ranges

mutual

/-- Whether the pattern matches places only. -/
def Expr.isPlace : Expr → Bool
  | .empty => true
  | .set _ => false
  | .anchor _ _ => true
  | .repetition _ max e => max = some 0 || e.isPlace
  | .capture e => e.isPlace
  | .alternation es => Expr.arePlaces es
  | .sequence es => Expr.arePlaces es

/-- Whether some patterns all match places only. -/
def Expr.arePlaces : List Expr → Bool
  | [] => true
  | e :: es => e.isPlace && Expr.arePlaces es

end

mutual

/-- Whether the pattern can match a place. -/
def Expr.canBePlace : Expr → Bool
  | .empty => true
  | .set _ => false
  | .anchor _ _ => true
  | .repetition min _ e => min = 0 || e.canBePlace
  | .capture e => e.canBePlace
  | .alternation es => Expr.anyCanBePlace es
  | .sequence es => Expr.allCanBePlaces es

/-- Whether one of some patterns can match a place. -/
def Expr.anyCanBePlace : List Expr → Bool
  | [] => false
  | e :: es => e.canBePlace || Expr.anyCanBePlace es

/-- Whether some patterns can all match a place. -/
def Expr.allCanBePlaces : List Expr → Bool
  | [] => true
  | e :: es => e.canBePlace && Expr.allCanBePlaces es

end

/-- The room of a repetition of what takes so much room. -/
def repetitionSize (min : Nat) (max : Option Nat) (canBePlace : Bool) (size : Nat) : Nat :=
  match max with
  | none =>
    if min = 0 then
      if canBePlace then size + 2 * forkSize 2 + stateSize else size + forkSize 2
    else min * size + forkSize 2
  | some max =>
    if max = 0 then stateSize
    else if min = max then min * size
    else
      (if min = 0 then if max = 1 then 0 else stateSize else min * size)
        + stateSize + (max - min) * (size + forkSize 2)

mutual

/-- The room that a pattern takes. What matches places only is never repeated more than once. -/
def Expr.size : Expr → Nat
  | .empty => stateSize
  | .set s => setSize s
  | .anchor _ _ => stateSize
  | .repetition min max e =>
    if e.isPlace then repetitionSize (Nat.min min 1) (some (Nat.min (max.getD 1) 1)) true e.size
    else repetitionSize min max e.canBePlace e.size
  | .capture e => e.size + 2 * stateSize
  | .alternation es => forkSize es.length + Expr.sizeOfParts es + stateSize
  | .sequence es => Expr.sizeOfParts es

/-- The room that some patterns take together. -/
def Expr.sizeOfParts : List Expr → Nat
  | [] => 0
  | e :: es => e.size + Expr.sizeOfParts es

end

/-- The room there is. -/
def maxSize : Nat := 10 * 0x100000

/-- What the automaton needs whatever the pattern is: to start anywhere, to remember where, and to
end. -/
def frameSize : Nat := forkSize 2 + 4 * stateSize

/-- Whether there is room for the pattern. -/
def Expr.isSmall (e : Expr) : Bool := e.size + frameSize ≤ maxSize

end FlagReplica.Pattern
