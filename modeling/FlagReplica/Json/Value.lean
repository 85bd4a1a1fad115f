import FlagReplica.Decimal.Shortest
/-!
# JSON values

A value of the format, and its text. Numbers keep apart what the format leaves open: an integer that
fits sixty-four bits is an integer, everything else a number of the binary64 format. Members of an
object stand in the order they were written in; `Json.normal` is the value with the members of every
object in ascending order and one member to a name.
-/

namespace FlagReplica

/-- A number of a JSON value. -/
inductive Number
  /-- An integer, from `-2 ^ 63` up to `2 ^ 64 - 1`. -/
  | int (n : Int)
  /-- Any other number. -/
  | real (x : Binary64)
  deriving DecidableEq, Repr, Inhabited

/-- A JSON value. -/
inductive Json
  | null
  | bool (b : Bool)
  | number (n : Number)
  | string (s : String)
  | array (items : List Json)
  | object (members : List (String × Json))
  deriving Repr, Inhabited

namespace Number

/-- The number as one of the binary64 format. -/
def toBinary64 : Number → Binary64
  | .int n => .ofInt n
  | .real x => x

/-- Whether the integer is one that a number keeps as such. -/
def isSmall (n : Int) : Bool := -0x8000000000000000 ≤ n && n < 0x10000000000000000

/-- Whether two numbers are equal: integers never equal reals. -/
def same : Number → Number → Bool
  | .int a, .int b => a == b
  | .real a, .real b => a.sameValue b
  | _, _ => false

/-- Reals in a JSON text and in messages: an exponent only for what is long without one, and always
a point or an exponent, so that a real does not look like an integer. -/
def layout : Decimal.Layout := ⟨fun e => -5 ≤ e && e ≤ 15, true⟩

/-- The text of a number. -/
def write : Number → String
  | .int n => Text.decimalInt n
  | .real x => layout.write x

end Number

namespace Json

mutual

/-- Whether two values are equal, numbers by `Number.same`. -/
def same : Json → Json → Bool
  | .null, .null => true
  | .bool a, .bool b => a == b
  | .number a, .number b => a.same b
  | .string a, .string b => a == b
  | .array a, .array b => sameItems a b
  | .object a, .object b => sameMembers a b
  | _, _ => false

/-- Whether two lists of items are equal. -/
def sameItems : List Json → List Json → Bool
  | [], [] => true
  | a :: as, b :: bs => same a b && sameItems as bs
  | _, _ => false

/-- Whether two lists of members are equal. -/
def sameMembers : List (String × Json) → List (String × Json) → Bool
  | [], [] => true
  | (k, a) :: as, (l, b) :: bs => k == l && same a b && sameMembers as bs
  | _, _ => false

end

instance : BEq Json := ⟨same⟩

/-- Puts a member in its place among ascending ones, instead of one of the same name. -/
def putMember (name : String) (value : Json) : List (String × Json) → List (String × Json)
  | [] => [(name, value)]
  | (k, v) :: rest =>
    if name < k then (name, value) :: (k, v) :: rest
    else if name = k then (name, value) :: rest
    else (k, v) :: putMember name value rest

/-- Members in ascending order of their names, the last of each name. -/
def normalMembers (members : List (String × Json)) : List (String × Json) :=
  members.foldl (fun acc m => putMember m.1 m.2 acc) []

mutual

/-- The value with the members of every object in ascending order, the last of each name. -/
def normal : Json → Json
  | .array items => .array (normalItems items)
  | .object members => .object (normalMembers (normalValues members))
  | j => j

/-- Every item in normal form. -/
def normalItems : List Json → List Json
  | [] => []
  | j :: js => normal j :: normalItems js

/-- Every member's value in normal form. -/
def normalValues : List (String × Json) → List (String × Json)
  | [] => []
  | (k, j) :: ms => (k, normal j) :: normalValues ms

end

/-! ## The text of a value -/

/-- A character inside a string literal. -/
def escapeChar (c : Char) : List Char :=
  if c = '"' then ['\\', '"']
  else if c = '\\' then ['\\', '\\']
  else if c = '\n' then ['\\', 'n']
  else if c = '\r' then ['\\', 'r']
  else if c = '\t' then ['\\', 't']
  else if c = '\x08' then ['\\', 'b']
  else if c = '\x0c' then ['\\', 'f']
  else if c.toNat < 0x20 then
    ['\\', 'u', '0', '0', Nat.digitChar (c.toNat / 16), Nat.digitChar (c.toNat % 16)]
  else [c]

/-- A string literal. -/
def writeString (s : String) : List Char := '"' :: (s.toList.flatMap escapeChar ++ ['"'])

mutual

/-- The text of a value, without blanks. -/
def write : Json → List Char
  | .null => ['n', 'u', 'l', 'l']
  | .bool true => ['t', 'r', 'u', 'e']
  | .bool false => ['f', 'a', 'l', 's', 'e']
  | .number n => n.write.toList
  | .string s => writeString s
  | .array items => '[' :: (writeItems items ++ [']'])
  | .object members => '{' :: (writeMembers members ++ ['}'])

/-- Items with commas between them. -/
def writeItems : List Json → List Char
  | [] => []
  | [j] => write j
  | j :: js => write j ++ ',' :: writeItems js

/-- Members with commas between them. -/
def writeMembers : List (String × Json) → List Char
  | [] => []
  | [(k, j)] => writeString k ++ ':' :: write j
  | (k, j) :: ms => writeString k ++ ':' :: write j ++ ',' :: writeMembers ms

end

/-- The text of a value. -/
def render (j : Json) : String := String.ofList j.write

/-- The value of the first member of a name. -/
def member? (j : Json) (name : String) : Option Json :=
  match j with
  | .object members => members.lookup name
  | _ => none

end Json

end FlagReplica
