import FlagReplica.Text.CharSet
import FlagReplica.Text.Table.Case
import FlagReplica.Text.Table.Property
/-!
# Lower case and case folding

A text in lower case, by the standard's full mapping: a character has one lower case whatever stands
around it, with two exceptions. The capital `I` with a dot becomes two characters, and the capital
sigma takes its final form at the end of a word, which `isFinalSigma` decides from the characters
around it. Folding, which pattern matching compares by, is one to one and looks at no neighbour.
-/

namespace FlagReplica.Text

/-- One row of a mapping: the code points from `first` to `last` by `step`, moved by `shift`. -/
structure CaseRow where
  first : Nat
  last : Nat
  step : Nat
  shift : Int
  deriving DecidableEq, Repr

/-- Whether the row moves a code point. -/
def CaseRow.moves (r : CaseRow) (n : Nat) : Bool :=
  r.first ≤ n && n ≤ r.last && (n - r.first) % r.step == 0

/-- The row that one word of a table writes: code points as in a set, then the shift. -/
def CaseRow.ofWord? (word : List Char) : Option CaseRow := do
  let ((first, last, step), rest) ← CharSet.readRow word
  match rest with
  | '+' :: digits => some ⟨first, last, step, (← ofDigits? 16 digits)⟩
  | '-' :: digits => some ⟨first, last, step, -(← ofDigits? 16 digits)⟩
  | _ => none

/-- A one-to-one mapping of code points, by rows. Code points in no row map to themselves. -/
structure CaseMap where
  rows : List CaseRow

namespace CaseMap

/-- The mapping that a table writes. -/
def ofTable (text : String) : CaseMap := ⟨(CharSet.words text).filterMap CaseRow.ofWord?⟩

/-- The image of a code point. -/
def image (m : CaseMap) (n : Nat) : Nat :=
  match m.rows.find? (·.moves n) with
  | some r => ((n : Int) + r.shift).toNat
  | none => n

/-- The code points that map into the set. -/
def preimage (m : CaseMap) (s : CharSet) : List Nat :=
  m.rows.flatMap fun r =>
    ((List.range ((r.last - r.first) / r.step + 1)).map fun i => r.first + i * r.step).filter
      fun n => s.containsCode ((n : Int) + r.shift).toNat

/-- The lower case of single characters. -/
def lower : CaseMap := ofTable Table.lowercaseMapping

/-- The folding of single characters. -/
def fold : CaseMap := ofTable Table.simpleFolding

end CaseMap

/-- The characters that case rules call cased. -/
def CharSet.cased : CharSet := ofTable Table.cased

/-- The characters that case rules look past. -/
def CharSet.caseIgnorable : CharSet := ofTable Table.caseIgnorable

/-- Whether the first character that case rules do not look past is cased. -/
def startsCased (cs : List Char) : Bool :=
  match cs.dropWhile CharSet.caseIgnorable.contains with
  | c :: _ => CharSet.cased.contains c
  | [] => false

/-- Whether a sigma between the characters before it, the nearest first, and those after it ends a
word: a cased character comes before and none after. -/
def isFinalSigma (before after : List Char) : Bool := startsCased before && !startsCased after

/-- The lower case of one character that no neighbour changes. -/
def lowerChar (c : Char) : List Char :=
  if c.toNat < 0x80 then [c.toLower]
  else if c = '\u0130' then ['i', '\u0307']
  else [Char.ofNat (CaseMap.lower.image c.toNat)]

/-- The lower case of what follows the characters before it, the nearest first. -/
def lowercaseAfter (before : List Char) : List Char → List Char
  | [] => []
  | c :: after =>
    (if c = '\u03A3' then [if isFinalSigma before after then '\u03C2' else '\u03C3']
      else lowerChar c) ++ lowercaseAfter (c :: before) after

/-- The text in lower case. -/
def lowercase (s : String) : String := String.ofList (lowercaseAfter [] s.toList)

end FlagReplica.Text
