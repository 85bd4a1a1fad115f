import FlagReplica.Evaluation.Host
import FlagReplica.Pattern.Search
import FlagReplica.Target.Basic
import FlagReplica.Text.CaseMap
/-!
# Clauses and segments

A clause compares an attribute of the target with its values, or asks whether the target is in one
of some segments; a segment asks its clauses. A clause that cannot be decided (no values, no such
attribute, an unknown operator, a pattern that is none) holds for nobody, and negating it does not
change that: `Clause.settle` negates answers only.

**Circles.** A segment that is asked about while it is being asked about counts as one that the
target is not in, unless its own lists say otherwise. The list `visiting` holds the segments that
are being asked about.
-/

namespace FlagReplica

variable {m : Type → Type} [Monad m]

/-- Whether a target is on a list. A target without an identifier is on none. -/
def isListed (list : List TargetRef) (t : Target) : Bool :=
  !t.identifier.isEmpty && list.any (·.identifier = t.identifier)

/-- Whether the first text occurs in the second. -/
def occursIn (needle : List Char) : List Char → Bool
  | [] => needle.isEmpty
  | c :: cs => needle.isPrefixOf (c :: cs) || occursIn needle cs

namespace Clause

/-- How the text of an attribute compares with the values, the first of which is given apart. There
is no answer if the operator is unknown or needs no attribute, or the pattern is none. -/
def compareText? (op : ClauseOperator) (text first : String) (values : List String) :
    Option Bool :=
  match op with
  | .patternMatch => Pattern.search? first text
  | .oneOf => some (values.contains text)
  | .equal => some (Text.lowercase text = Text.lowercase first)
  | .equalSensitive => some (text = first)
  | .greater => some (first < text)
  | .startsWith => some (first.toList.isPrefixOf text.toList)
  | .endsWith => some (first.toList.isSuffixOf text.toList)
  | .contains => some (occursIn first.toList text.toList)
  | .segmentMatch => none
  | .unknown _ => none

/-- What an answer to a clause's question says of the clause. Without an answer the clause does not
hold, negated or not. -/
def settle (c : Clause) : Option Bool → Bool
  | some matched => matched != c.negate
  | none => false

/-- The answer to a clause's question, given how membership in segments is decided. -/
def answer? (member : List String → m Bool) (c : Clause) (t : Target) : m (Option Bool) :=
  match c.values with
  | [] => pure none
  | first :: _ =>
    if c.op = .segmentMatch then some <$> member c.values
    else pure ((t.clauseText? c.attributeName).bind fun text =>
      compareText? c.op text first c.values)

/-- Whether a clause holds, given how membership in segments is decided. -/
def holdsWith (member : List String → m Bool) (c : Clause) (t : Target) : m Bool :=
  c.settle <$> c.answer? member t

end Clause

/-- Whether a target is in one of the segments, tried in order, given how that is decided of one. A
segment that is not there has no members. -/
def isMemberBy (h : Host m) (contains : Segment → m Bool) (ids : List String) : m Bool :=
  ids.anyM fun id => do
    match ← h.segment? id with
    | some s => contains s
    | none =>
      h.log .debug "segment not found"
      pure false

namespace Segment

/-- Whether the target is in the segment, at most so many levels deep, while other segments are
being asked about. -/
def containsWithin (h : Host m) (t : Target) : Nat → List String → Segment → m Bool
  | 0, _, _ => pure false
  | levels + 1, visiting, s =>
    if isListed s.excluded t then do
      h.log .trace "target excluded from segment"
      pure false
    else if isListed s.included t then pure true
    else if s.identifier ∈ visiting then pure false
    else
      s.rules.anyM fun c =>
        c.holdsWith (isMemberBy h fun other =>
          containsWithin h t levels (s.identifier :: visiting) other) t

/-- Whether the target is in the segment. -/
def contains (h : Host m) (budget : Budget) (t : Target) (s : Segment) : m Bool :=
  s.containsWithin h t budget.segments []

end Segment

/-- Whether the target is in one of the segments. -/
def isMember (h : Host m) (budget : Budget) (t : Target) : List String → m Bool :=
  isMemberBy h fun s => s.contains h budget t

/-- Whether a clause holds. -/
def Clause.holds (h : Host m) (budget : Budget) (t : Target) (c : Clause) : m Bool :=
  c.holdsWith (isMember h budget t) t

end FlagReplica
