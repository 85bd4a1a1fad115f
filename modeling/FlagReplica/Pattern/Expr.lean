import FlagReplica.Pattern.Tree
import FlagReplica.Text.CaseMap
/-!
# What patterns stand for

A tree with its modes settled is an `Expr`: sets of characters and conditions on places, in
sequence, in alternation and repeated. Modes that are switched hold to the end of the group they are
switched in, across its alternatives.

A pattern is matched against characters, and so everything in it must stand for characters. Without
the mode `unicode` that leaves the seven-bit ones: a set that holds others, be it by its negation, a
byte beyond them, and the dot are refused there.
-/

namespace FlagReplica.Text.CharSet

/-- The letters of seven bits in both cases, where the set has one of them. -/
def asciiCaseClosure (s : CharSet) : CharSet :=
  ofRanges (s.ranges ++ ((List.range 26).flatMap fun i =>
    if s.containsCode (0x41 + i) || s.containsCode (0x61 + i) then
      [(0x41 + i, 0x41 + i), (0x61 + i, 0x61 + i)]
    else []))

/-- The set with every character that folds to the same as one of its members. -/
def caseClosure (s : CharSet) : CharSet :=
  let folded := union s (ofRanges (CaseMap.fold.rows.flatMap fun r =>
    ((List.range ((r.last - r.first) / r.step + 1)).filterMap fun i =>
      let n := r.first + i * r.step
      if s.containsCode n then
        let image := ((n : Int) + r.shift).toNat
        some (image, image)
      else none)))
  union folded (ofRanges ((CaseMap.fold.preimage folded).map fun n => (n, n)))

end FlagReplica.Text.CharSet

namespace FlagReplica.Pattern

open FlagReplica.Text

/-- The modes that hold at some part of a pattern. How much a repetition takes and what blanks count
for make no difference any more. -/
structure Modes where
  caseInsensitive : Bool
  multiLine : Bool
  dotAll : Bool
  unicode : Bool
  crlf : Bool
  deriving DecidableEq, Repr

namespace Modes

/-- The modes that a pattern starts with. -/
def initial : Modes := ⟨false, false, false, true, false⟩

/-- The modes with one of them set. -/
def set (modes : Modes) : Mode × Bool → Modes
  | (.caseInsensitive, on) => { modes with caseInsensitive := on }
  | (.multiLine, on) => { modes with multiLine := on }
  | (.dotAll, on) => { modes with dotAll := on }
  | (.unicode, on) => { modes with unicode := on }
  | (.crlf, on) => { modes with crlf := on }
  | (.swapGreed, _) => modes
  | (.freeSpacing, _) => modes

/-- The modes after some switches. -/
def switch (modes : Modes) (s : Switches) : Modes := s.foldl set modes

/-- A set with what its members are equal to but for their case, if that is the mode. -/
def fold (modes : Modes) (s : CharSet) : CharSet :=
  if !modes.caseInsensitive then s
  else if modes.unicode then s.caseClosure
  else s.asciiCaseClosure

/-- A set, or what is not in it, as the modes have it. -/
def settle (modes : Modes) (negated : Bool) (s : CharSet) : Option CharSet :=
  let s := modes.fold s
  let s := if negated then s.compl else s
  if modes.unicode || s.isAscii then some s else none

/-- What the dot stands for. -/
def dot (modes : Modes) : Option CharSet :=
  if !modes.unicode then none
  else if modes.dotAll then some CharSet.all
  else if modes.crlf then some (CharSet.compl ⟨[(0xA, 0xA), (0xD, 0xD)]⟩)
  else some (CharSet.compl (CharSet.singleton 0xA))

/-- The characters of words. -/
def wordChars (modes : Modes) : CharSet :=
  if modes.unicode then Pattern.wordChars else (asciiClass? "word").getD CharSet.empty

/-- What a shorthand stands for. -/
def shorthand (modes : Modes) (s : Shorthand) (negated : Bool) : Option CharSet :=
  let members := match s with
    | .digit => if modes.unicode then digits else (asciiClass? "digit").getD CharSet.empty
    | .blank =>
      if modes.unicode then CharSet.whiteSpace else (asciiClass? "space").getD CharSet.empty
    | .word => modes.wordChars
  if !negated then some members
  else if modes.unicode then some members.compl
  else none

end Modes

/-- The character of a literal among others in a set. -/
def Literal.code? (modes : Modes) (l : Literal) : Option Nat :=
  if modes.unicode || l.char.toNat < 0x80 then some l.char.toNat else none

/-- What a literal stands for by itself. -/
def Literal.members? (modes : Modes) (l : Literal) : Option CharSet :=
  if !modes.unicode && l.asByte && 0x80 ≤ l.char.toNat then none
  else some (modes.fold (CharSet.singleton l.char.toNat))

/-- What an operation makes of two sets. -/
def SetOperation.apply : SetOperation → CharSet → CharSet → CharSet
  | .intersection, s, t => CharSet.inter s t
  | .difference, s, t => CharSet.diff s t
  | .symmetricDifference, s, t => CharSet.symmDiff s t

mutual

/-- The characters that a set stands for. -/
def SetTree.members? (modes : Modes) : SetTree → Option CharSet
  | .empty => some CharSet.empty
  | .literal l => (l.code? modes).map CharSet.singleton
  | .range a b => do return CharSet.range (← a.code? modes) (← b.code? modes)
  | .ascii members negated => modes.settle negated members
  | .shorthand s negated => modes.shorthand s negated
  | .property p negated =>
    if modes.unicode then p.members?.bind (modes.settle negated) else none
  | .bracketed negated content => (content.members? modes).bind (modes.settle negated)
  | .union items => SetTree.membersOfItems? modes items
  | .operation op l r => do
    return op.apply (modes.fold (← l.members? modes)) (modes.fold (← r.members? modes))

/-- The characters that any of some sets stands for. -/
def SetTree.membersOfItems? (modes : Modes) : List SetTree → Option CharSet
  | [] => some CharSet.empty
  | s :: ss => do return CharSet.union (← s.members? modes) (← SetTree.membersOfItems? modes ss)

end

/-- A pattern with its modes settled. -/
inductive Expr
  /-- Nothing has to stand here. -/
  | empty
  /-- One character of a set. -/
  | set (s : CharSet)
  /-- A condition on the place. -/
  | anchor (a : Anchor) (modes : Modes)
  | repetition (min : Nat) (max : Option Nat) (e : Expr)
  /-- A part that would be remembered. -/
  | capture (e : Expr)
  | alternation (es : List Expr)
  | sequence (es : List Expr)

mutual

/-- What a pattern stands for, and the modes after it. -/
def Tree.toExpr? (modes : Modes) : Tree → Option (Expr × Modes)
  | .empty => some (.empty, modes)
  | .literal l => (l.members? modes).map fun s => (.set s, modes)
  | .dot => modes.dot.map fun s => (.set s, modes)
  | .anchor a => some (.anchor a modes, modes)
  | .set s => (s.members? modes).map fun s => (.set s, modes)
  | .switches s => some (.empty, modes.switch s)
  | .repetition min max t => do
    let (e, modes) ← t.toExpr? modes
    return (.repetition min max e, modes)
  | .group (.plain s) t => do return ((← t.toExpr? (modes.switch s)).1, modes)
  | .group _ t => do return (.capture (← t.toExpr? modes).1, modes)
  | .alternation ts => do
    let (es, modes) ← Tree.partsToExprs? modes ts
    return (.alternation es, modes)
  | .sequence ts => do
    let (es, modes) ← Tree.partsToExprs? modes ts
    return (.sequence es, modes)

/-- What some patterns stand for, each with the modes after the one before. -/
def Tree.partsToExprs? (modes : Modes) : List Tree → Option (List Expr × Modes)
  | [] => some ([], modes)
  | t :: ts => do
    let (e, modes) ← t.toExpr? modes
    let (es, modes) ← Tree.partsToExprs? modes ts
    return (e :: es, modes)

end

/-! ## Matching -/

/-- What stands before and after a place in a text. -/
structure Place where
  before : Option Char
  after : Option Char
  deriving DecidableEq, Repr

/-- The places of a text, one more than it has characters, after the character before. -/
def placesAfter (before : Option Char) : List Char → List Place
  | [] => [⟨before, none⟩]
  | c :: cs => ⟨before, some c⟩ :: placesAfter (some c) cs

namespace Place

/-- Whether a line starts here. With `crlf` the two characters of a line end belong together. -/
def startsLine (p : Place) (crlf : Bool) : Bool :=
  match p.before with
  | none => true
  | some c => c == '\n' || (crlf && c == '\r' && p.after != some '\n')

/-- Whether a line ends here. -/
def endsLine (p : Place) (crlf : Bool) : Bool :=
  match p.after with
  | none => true
  | some c =>
    if crlf then c == '\r' || (c == '\n' && p.before != some '\r') else c == '\n'

/-- Whether a condition holds here. -/
def satisfies (p : Place) (modes : Modes) (a : Anchor) : Bool :=
  let before := p.before.any modes.wordChars.contains
  let after := p.after.any modes.wordChars.contains
  match a with
  | .textStart => p.before.isNone
  | .textEnd => p.after.isNone
  | .lineStart => if modes.multiLine then p.startsLine modes.crlf else p.before.isNone
  | .lineEnd => if modes.multiLine then p.endsLine modes.crlf else p.after.isNone
  | .wordBoundary => before != after
  | .notWordBoundary => before == after
  | .wordStart => !before && after
  | .wordEnd => before && !after
  | .wordStartHalf => !before
  | .wordEndHalf => !after

end Place

/-- Which places of a text are reached: one mark for each place. -/
abbrev Marks := List Bool

namespace Marks

/-- What is reached in one way or the other. -/
def join (a b : Marks) : Marks := List.zipWith or a b

/-- What is reached by so many steps in a row. -/
def iterate (step : Marks → Marks) : Nat → Marks → Marks
  | 0, m => m
  | n + 1, m =>
    let next := step m
    if next = m then m else iterate step n next

/-- What is reached by so many steps in a row or fewer. -/
def closure (step : Marks → Marks) : Nat → Marks → Marks
  | 0, m => m
  | n + 1, m =>
    let next := join m (step m)
    if next = m then m else closure step n next

end Marks

mutual

/-- The places where a match can end that starts at one of the places reached. Each step of an
unlimited repetition reaches a new place or nothing new at all, so as many steps as there are places
are enough. -/
def Expr.advance (text : List Char) : Expr → Marks → Marks
  | .empty, m => m
  | .set s, m => false :: List.zipWith (fun c reached => reached && s.contains c) text m
  | .anchor a modes, m =>
    List.zipWith (fun (p : Place) reached => reached && p.satisfies modes a)
      (placesAfter none text) m
  | .repetition min max e, m =>
    Marks.closure (e.advance text) ((max.map (· - min)).getD (text.length + 1))
      (Marks.iterate (e.advance text) min m)
  | .capture e, m => e.advance text m
  | .alternation es, m => Expr.advanceAny text es m
  | .sequence es, m => Expr.advanceAll text es m

/-- The places where a match of one of some patterns can end. -/
def Expr.advanceAny (text : List Char) : List Expr → Marks → Marks
  | [], m => m.map fun _ => false
  | e :: es, m => Marks.join (e.advance text m) (Expr.advanceAny text es m)

/-- The places where a match of some patterns, one after the other, can end. -/
def Expr.advanceAll (text : List Char) : List Expr → Marks → Marks
  | [], m => m
  | e :: es, m => Expr.advanceAll text es (e.advance text m)

end

/-- Whether the pattern is found anywhere in a text. -/
def Expr.isFoundIn (e : Expr) (text : List Char) : Bool :=
  (e.advance text (List.replicate (text.length + 1) true)).contains true

end FlagReplica.Pattern
