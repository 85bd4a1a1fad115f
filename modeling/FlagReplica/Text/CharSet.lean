import FlagReplica.Text.Digits
/-!
# Sets of characters

A set of code points, kept as ranges. `ofRanges` brings any ranges into the one normal form
(ascending, neither overlapping nor touching), the operations of sets keep to it, and `ofTable`
reads the compact notation that the tables of this library are written in.
-/

namespace FlagReplica.Text

/-- A set of code points, as closed ranges. -/
structure CharSet where
  /-- The first and the last code point of each range. -/
  ranges : List (Nat × Nat)
  deriving DecidableEq, Repr, Inhabited

namespace CharSet

/-- The last code point. -/
def maxCode : Nat := 0x10FFFF

/-- Whether a code point is in the set. -/
def containsCode (s : CharSet) (n : Nat) : Bool :=
  s.ranges.any fun r => r.1 ≤ n && n ≤ r.2

/-- Whether a character is in the set. -/
def contains (s : CharSet) (c : Char) : Bool := s.containsCode c.toNat

/-- Joins ascending ranges that overlap or touch. -/
def coalesce : List (Nat × Nat) → List (Nat × Nat)
  | [] => []
  | r :: rs =>
    match coalesce rs with
    | [] => [r]
    | q :: qs => if q.1 ≤ r.2 + 1 then (r.1, max r.2 q.2) :: qs else r :: q :: qs

/-- The set of the code points in some range, in normal form. -/
def ofRanges (rs : List (Nat × Nat)) : CharSet :=
  ⟨coalesce ((rs.filter fun r => r.1 ≤ r.2).mergeSort fun a b => a.1 ≤ b.1)⟩

/-- The set without characters. -/
def empty : CharSet := ⟨[]⟩

/-- The set of one code point. -/
def singleton (n : Nat) : CharSet := ⟨[(n, n)]⟩

/-- The code points from the first to the last. -/
def range (lo hi : Nat) : CharSet := ofRanges [(lo, hi)]

/-- Every character: the code points without the surrogates, which are no characters. -/
def all : CharSet := ⟨[(0, 0xD7FF), (0xE000, maxCode)]⟩

/-- The characters of seven bits. -/
def ascii : CharSet := ⟨[(0, 0x7F)]⟩

/-- What is in one set or the other. -/
def union (s t : CharSet) : CharSet := ofRanges (s.ranges ++ t.ranges)

/-- What is in both sets. -/
def inter (s t : CharSet) : CharSet :=
  ofRanges (s.ranges.flatMap fun a => t.ranges.filterMap fun b =>
    if max a.1 b.1 ≤ min a.2 b.2 then some (max a.1 b.1, min a.2 b.2) else none)

/-- The gaps between ascending ranges, from a code point on. -/
def gaps : Nat → List (Nat × Nat) → List (Nat × Nat)
  | start, [] => if start ≤ maxCode then [(start, maxCode)] else []
  | start, r :: rs =>
    if start < r.1 then (start, r.1 - 1) :: gaps (r.2 + 1) rs else gaps (r.2 + 1) rs

/-- The characters outside the set. -/
def compl (s : CharSet) : CharSet := inter ⟨gaps 0 (ofRanges s.ranges).ranges⟩ all

/-- What is in the first set and not in the second. -/
def diff (s t : CharSet) : CharSet := inter s (compl t)

/-- What is in exactly one of the sets. -/
def symmDiff (s t : CharSet) : CharSet := union (diff s t) (diff t s)

/-- Whether every member is a character of seven bits. -/
def isAscii (s : CharSet) : Bool := s.ranges.all fun r => r.2 ≤ 0x7F

/-! ## The notation of the tables -/

/-- The words of a text: what stands between blanks and line ends. -/
def words (text : String) : List (List Char) :=
  (text.toList.splitBy fun a b => isBlank a == isBlank b).filter fun w => !w.any isBlank
where
  isBlank (c : Char) : Bool := c == ' ' || c == '\n'

/-- The code points that the start of a word names, as first, last and step, and the rest of the
word: `AA`, `41..5A` or `100..12E/2`. -/
def readRow (word : List Char) : Option ((Nat × Nat × Nat) × List Char) := do
  let (first, rest) := spanDigits 16 word
  let lo ← ofDigits? 16 first
  match rest with
  | '.' :: '.' :: rest =>
    let (last, rest) := spanDigits 16 rest
    let hi ← ofDigits? 16 last
    match rest with
    | '/' :: '2' :: rest => some ((lo, hi, 2), rest)
    | _ => some ((lo, hi, 1), rest)
  | _ => some ((lo, lo, 1), rest)

/-- The ranges that one word of a table names. -/
def rowRanges (word : List Char) : List (Nat × Nat) :=
  match readRow word with
  | some ((lo, hi, 2), _) => (List.range ((hi - lo) / 2 + 1)).map fun i => (lo + 2 * i, lo + 2 * i)
  | some ((lo, hi, _), _) => [(lo, hi)]
  | none => []

/-- The set that a table writes. -/
def ofTable (text : String) : CharSet := ofRanges ((words text).flatMap rowRanges)

end CharSet

end FlagReplica.Text
