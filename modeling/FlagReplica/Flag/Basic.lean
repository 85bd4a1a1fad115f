/-!
# Flags and segments

A flag decides which of its variations a target is served. It is on or off; off, it serves one
variation to all. On, it first looks the target up in its target map, then goes through its rules in
the order of their priorities, and serves by default what the rest is served. A flag may also name
other flags that have to serve certain variations before it is taken to be on.

A segment is a named set of targets, by lists of who is in and who is out, and by clauses for the
rest.
-/

namespace FlagReplica

/-- The type of what a flag's variations hold. -/
inductive FlagKind
  | boolean
  | string
  | int
  | json
  deriving DecidableEq, Repr, Inhabited

/-- Whether a flag is on. -/
inductive FlagState
  | on
  | off
  deriving DecidableEq, Repr, Inhabited

/-- One of the values a flag can serve. -/
structure Variation where
  identifier : String
  name : Option String
  description : Option String
  value : String
  deriving DecidableEq, Repr, Inhabited

/-- A variation and its share. -/
structure WeightedVariation where
  variation : String
  weight : UInt32
  deriving DecidableEq, Repr, Inhabited

/-- Shares of the buckets that targets fall into by one of their attributes. -/
structure Distribution where
  bucketBy : String
  variations : List WeightedVariation
  deriving DecidableEq, Repr, Inhabited

/-- What is served: one variation, or one drawn by the target's bucket. -/
inductive Serve
  | distribution (d : Distribution)
  | variation (identifier : String)
  deriving DecidableEq, Repr, Inhabited

/-- How a clause compares an attribute with its values. -/
inductive ClauseOperator
  /-- The target is in one of the segments named. -/
  | segmentMatch
  /-- A pattern is found in the attribute. -/
  | patternMatch
  /-- The attribute is one of the values. -/
  | oneOf
  /-- The attribute is the value, in any case. -/
  | equal
  /-- The attribute is the value. -/
  | equalSensitive
  /-- The attribute comes after the value, by code points. -/
  | greater
  | startsWith
  | endsWith
  | contains
  /-- An operator that is not known. It never matches. -/
  | unknown (name : String)
  deriving DecidableEq, Repr, Inhabited

namespace ClauseOperator

/-- The operators that are known, with their names. -/
def known : List (String × ClauseOperator) := [
  ("segmentMatch", .segmentMatch), ("match", .patternMatch), ("in", .oneOf), ("equal", .equal),
  ("equal_sensitive", .equalSensitive), ("gt", .greater), ("starts_with", .startsWith),
  ("ends_with", .endsWith), ("contains", .contains)]

/-- The operator of a name. -/
def ofName (name : String) : ClauseOperator := (known.lookup name).getD (.unknown name)

/-- The name of an operator. -/
def name : ClauseOperator → String
  | .segmentMatch => "segmentMatch"
  | .patternMatch => "match"
  | .oneOf => "in"
  | .equal => "equal"
  | .equalSensitive => "equal_sensitive"
  | .greater => "gt"
  | .startsWith => "starts_with"
  | .endsWith => "ends_with"
  | .contains => "contains"
  | .unknown name => name

/-- Whether the operator is one that is known. -/
def isKnown : ClauseOperator → Bool
  | .unknown _ => false
  | _ => true

/-- A known operator is the one of its name. -/
theorem ofName_name {op : ClauseOperator} (h : op.isKnown) : ofName op.name = op := by
  cases op <;> first | rfl | simp [isKnown] at h

/-- Every name is the name of its operator. -/
theorem name_ofName (s : String) : (ofName s).name = s := by
  simp only [ofName, known, List.lookup_cons, List.lookup_nil]
  repeat' split
  all_goals simp_all [name]

end ClauseOperator

/-- A condition on a target. -/
structure Clause where
  id : Option String
  attributeName : String
  op : ClauseOperator
  values : List String
  negate : Bool
  deriving DecidableEq, Repr, Inhabited

/-- What is served to the targets that meet all clauses. The lower priority comes first. -/
structure ServingRule where
  ruleId : Option String
  priority : Int32
  clauses : List Clause
  serve : Serve
  deriving DecidableEq, Repr, Inhabited

/-- A target on a list. -/
structure TargetRef where
  identifier : String
  name : Option String
  deriving DecidableEq, Repr, Inhabited

/-- The variation for the targets listed and for the members of the segments named. -/
structure VariationMap where
  variation : String
  targets : List TargetRef
  targetSegments : List String
  deriving DecidableEq, Repr, Inhabited

/-- Another flag, and the variations of it that are accepted. -/
structure Prerequisite where
  feature : String
  variations : List String
  deriving DecidableEq, Repr, Inhabited

/-- A flag. -/
structure Flag where
  feature : String
  kind : FlagKind
  state : FlagState
  offVariation : String
  defaultServe : Serve
  rules : List ServingRule
  variationToTargetMap : List VariationMap
  prerequisites : List Prerequisite
  variations : List Variation
  version : Int64
  deriving DecidableEq, Repr, Inhabited

/-- The first variation of an identifier. -/
def Flag.findVariation? (f : Flag) (identifier : String) : Option Variation :=
  f.variations.find? (·.identifier = identifier)

/-- A named set of targets. -/
structure Segment where
  identifier : String
  name : Option String
  included : List TargetRef
  excluded : List TargetRef
  rules : List Clause
  version : Int64
  deriving DecidableEq, Repr, Inhabited

end FlagReplica
