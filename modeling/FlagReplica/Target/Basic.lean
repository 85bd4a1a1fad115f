import FlagReplica.Decimal.Shortest
/-!
# Targets

A target is whoever or whatever a flag is evaluated for: an identifier, perhaps a name, and custom
attributes. `Target.attribute?` is how everything else sees a target. A custom attribute hides a
built-in one of the same name, and the built-in names are read in any case.
-/

namespace FlagReplica

/-- A value that a clause can compare. -/
inductive AttributeValue
  | text (s : String)
  | number (x : Binary64)
  | boolean (b : Bool)
  /-- A value that is absent or of no known type. No clause matches it. -/
  | null
  deriving DecidableEq, Repr, Inhabited

namespace AttributeValue

/-- Numbers as clauses see them: the shortest decimal, never with an exponent. -/
def numberLayout : Decimal.Layout := ⟨fun _ => true, false⟩

/-- The text that a clause compares. There is none for an absent value. -/
def clauseText? : AttributeValue → Option String
  | .text s => some s
  | .number x => some (numberLayout.write x)
  | .boolean b => some (toString b)
  | .null => none

/-- Where the type of a value stands among the types. -/
def rank : AttributeValue → Nat
  | .text _ => 0
  | .number _ => 1
  | .boolean _ => 2
  | .null => 3

/-- The order of values: by type first, then within the type. Only numbers can be unordered. -/
def compare? : AttributeValue → AttributeValue → Option Ordering
  | .text a, .text b => some (compare a b)
  | .number a, .number b => a.compare? b
  | .boolean a, .boolean b => some (compare a b)
  | a, b => some (compare a.rank b.rank)

end AttributeValue

/-- Custom attributes, by name. -/
abbrev Attributes := List (String × AttributeValue)

/-- Whoever or whatever a flag is evaluated for. -/
structure Target where
  identifier : String
  name : Option String
  anonymous : Option Bool
  attributes : Attributes
  deriving DecidableEq, Repr, Inhabited

namespace Target

/-- The target with an identifier and nothing else. -/
def ofIdentifier (identifier : String) : Target := ⟨identifier, none, none, []⟩

/-- The target with an attribute, instead of one of the same name. -/
def setAttribute (t : Target) (name : String) (value : AttributeValue) : Target :=
  { t with attributes := t.attributes.filter (·.1 ≠ name) ++ [(name, value)] }

/-- Whether two names are equal but for the case of seven-bit letters. -/
def sameName (a b : String) : Bool := a.toList.map Char.toLower == b.toList.map Char.toLower

/-- The value of an attribute: a custom one of exactly that name, or else the identifier or the name
of the target. -/
def attribute? (t : Target) (name : String) : Option AttributeValue :=
  match t.attributes.lookup name with
  | some value => some value
  | none =>
    if sameName name "identifier" then some (.text t.identifier)
    else if sameName name "name" then t.name.map .text
    else none

/-- The text of an attribute that clauses compare, if it has one. -/
def clauseText? (t : Target) (name : String) : Option String :=
  (t.attribute? name).bind (·.clauseText?)

end Target

end FlagReplica
