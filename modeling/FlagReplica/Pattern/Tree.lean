import FlagReplica.Pattern.Property
/-!
# The syntax of patterns

A pattern as it is written: what stands next to what, which part a repetition repeats, where a mode
is switched. What a part stands for depends on the modes that hold where it stands, and is not
decided here.

A pattern may not be nested too deep (`Tree.depth`), and no two of its groups may bear the same name
(`Tree.names`).
-/

namespace FlagReplica.Pattern

open FlagReplica.Text

/-- What can be switched on and off within a pattern. -/
inductive Mode
  | caseInsensitive
  /-- Lines have starts and ends of their own. -/
  | multiLine
  /-- The dot stands for line ends as well. -/
  | dotAll
  /-- Repetitions that take much and those that take little change places. -/
  | swapGreed
  /-- Classes and boundaries are those of the standard, not those of seven bits. -/
  | unicode
  /-- A line ends with a carriage return and a line feed, or with either. -/
  | crlf
  /-- Blanks and comments do not count. -/
  | freeSpacing
  deriving DecidableEq, Repr

/-- The mode of a letter. -/
def Mode.ofChar? (c : Char) : Option Mode :=
  [('i', caseInsensitive), ('m', multiLine), ('s', dotAll), ('U', swapGreed), ('u', unicode),
    ('R', crlf), ('x', freeSpacing)].lookup c

/-- Modes that are switched on or off, in the order they are written. -/
abbrev Switches := List (Mode × Bool)

/-- A condition on a place in the text. -/
inductive Anchor
  | lineStart
  | lineEnd
  | textStart
  | textEnd
  | wordBoundary
  | notWordBoundary
  | wordStart
  | wordEnd
  | wordStartHalf
  | wordEndHalf
  deriving DecidableEq, Repr

/-- A character that stands for itself. -/
structure Literal where
  char : Char
  /-- Whether it was written as a byte, by two digits. -/
  asByte : Bool
  deriving DecidableEq, Repr

/-- A set of characters with a name of one letter. -/
inductive Shorthand
  | digit
  | blank
  | word
  deriving DecidableEq, Repr

/-- An operation on two sets. -/
inductive SetOperation
  | intersection
  | difference
  | symmetricDifference
  deriving DecidableEq, Repr

/-- A set of characters as it is written. -/
inductive SetTree
  | empty
  | literal (l : Literal)
  | range (first last : Literal)
  /-- A seven-bit class. -/
  | ascii (members : CharSet) (negated : Bool)
  | shorthand (s : Shorthand) (negated : Bool)
  | property (p : Property) (negated : Bool)
  /-- A set between brackets. -/
  | bracketed (negated : Bool) (content : SetTree)
  | union (items : List SetTree)
  | operation (op : SetOperation) (left right : SetTree)

/-- What a group is for. -/
inductive GroupKind
  /-- To remember what it matched. -/
  | capturing
  /-- To remember what it matched under a name. -/
  | named (name : List Char)
  /-- To hold together, with modes switched. -/
  | plain (switches : Switches)
  deriving DecidableEq, Repr

/-- A pattern as it is written. -/
inductive Tree
  | empty
  | literal (l : Literal)
  | dot
  | anchor (a : Anchor)
  | set (s : SetTree)
  /-- Modes switched for what follows in the group. -/
  | switches (s : Switches)
  /-- So many times at least, and at most if there is a limit. -/
  | repetition (min : Nat) (max : Option Nat) (t : Tree)
  | group (kind : GroupKind) (t : Tree)
  | alternation (ts : List Tree)
  | sequence (ts : List Tree)

/-- The one item of a list, or what the list makes. -/
def joinItems {α : Type} (empty : α) (join : List α → α) : List α → α
  | [] => empty
  | [x] => x
  | xs => join xs

/-- Whether a mode is switched on or off, if it is. The first switch counts. -/
def Switches.state? (s : Switches) (m : Mode) : Option Bool := s.lookup m

/-! ## Depth and names -/

mutual

/-- How deep a set is nested. -/
def SetTree.depth : SetTree → Nat
  | .bracketed _ content => content.depth + 1
  | .union items => SetTree.depthOfItems items + 1
  | .operation _ l r => max l.depth r.depth + 1
  | _ => 0

/-- How deep the deepest of some sets is nested. -/
def SetTree.depthOfItems : List SetTree → Nat
  | [] => 0
  | s :: ss => max s.depth (SetTree.depthOfItems ss)

end

mutual

/-- How deep a pattern is nested. -/
def Tree.depth : Tree → Nat
  | .set s => s.depth
  | .repetition _ _ t => t.depth + 1
  | .group _ t => t.depth + 1
  | .alternation ts => Tree.depthOfParts ts + 1
  | .sequence ts => Tree.depthOfParts ts + 1
  | _ => 0

/-- How deep the deepest of some patterns is nested. -/
def Tree.depthOfParts : List Tree → Nat
  | [] => 0
  | t :: ts => max t.depth (Tree.depthOfParts ts)

end

mutual

/-- The names of groups. -/
def Tree.names : Tree → List (List Char)
  | .repetition _ _ t => t.names
  | .group (.named name) t => name :: t.names
  | .group _ t => t.names
  | .alternation ts => Tree.namesOfParts ts
  | .sequence ts => Tree.namesOfParts ts
  | _ => []

/-- The names of groups in some patterns. -/
def Tree.namesOfParts : List Tree → List (List Char)
  | [] => []
  | t :: ts => t.names ++ Tree.namesOfParts ts

end

/-- How deep a pattern may be nested. -/
def maxDepth : Nat := 250

/-- Whether a pattern keeps to the limits on nesting and names. -/
def Tree.isSound (t : Tree) : Bool := t.depth ≤ maxDepth && t.names.Pairwise (· ≠ ·)

end FlagReplica.Pattern
