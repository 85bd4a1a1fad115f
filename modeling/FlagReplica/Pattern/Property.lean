import FlagReplica.Text.Blank
import FlagReplica.Text.Quoted
import FlagReplica.Text.Table.Binary
import FlagReplica.Text.Table.Script
import FlagReplica.Text.Table.ScriptExtension
/-!
# Sets of characters by name

What a pattern can call by a name: the seven-bit classes between brackets and colons, and the
properties of the standard. A property is named alone or as a value of one of three others, the
general category, the script, and the scripts that use a character. Names are compared without
regard to case, blanks, hyphens, underscores and a leading "is", and of the names that mean two
things the general category wins.
-/

namespace FlagReplica.Pattern

open FlagReplica.Text

/-- The seven-bit class of a name. -/
def asciiClass? (name : String) : Option CharSet :=
  [("alnum", [(0x30, 0x39), (0x41, 0x5A), (0x61, 0x7A)]), ("alpha", [(0x41, 0x5A), (0x61, 0x7A)]),
    ("ascii", [(0, 0x7F)]), ("blank", [(0x9, 0x9), (0x20, 0x20)]),
    ("cntrl", [(0, 0x1F), (0x7F, 0x7F)]), ("digit", [(0x30, 0x39)]), ("graph", [(0x21, 0x7E)]),
    ("lower", [(0x61, 0x7A)]), ("print", [(0x20, 0x7E)]),
    ("punct", [(0x21, 0x2F), (0x3A, 0x40), (0x5B, 0x60), (0x7B, 0x7E)]),
    ("space", [(0x9, 0xD), (0x20, 0x20)]), ("upper", [(0x41, 0x5A)]),
    ("word", [(0x30, 0x39), (0x41, 0x5A), (0x5F, 0x5F), (0x61, 0x7A)]),
    ("xdigit", [(0x30, 0x39), (0x41, 0x46), (0x61, 0x66)])].lookup name |>.map CharSet.ofRanges

/-! ## General categories -/

/-- The groups of general categories, with their second names and the categories in them. -/
def categoryGroups : List (String × List String × List String) := [
  ("l", ["letter"], ["Lu", "Ll", "Lt", "Lm", "Lo"]),
  ("lc", ["casedletter"], ["Lu", "Ll", "Lt"]),
  ("m", ["mark", "combiningmark"], ["Mn", "Mc", "Me"]),
  ("n", ["number"], ["Nd", "Nl", "No"]),
  ("p", ["punctuation", "punct"], ["Pc", "Pd", "Ps", "Pe", "Pi", "Pf", "Po"]),
  ("s", ["symbol"], ["Sm", "Sc", "Sk", "So"]),
  ("z", ["separator"], ["Zs", "Zl", "Zp"])]

/-- The characters without a category. -/
def unassigned : CharSet := CharSet.compl CharSet.assigned

/-- The single category of a name. Surrogates are no characters, so their category has none. -/
def category? (name : String) : Option CharSet :=
  let name := if name = "cntrl" then "cc" else if name = "digit" then "nd" else name
  if name = "cs" ∨ name = "surrogate" then none
  else (Table.categories.find? fun row =>
    row.1.toList.map Char.toLower == name.toList || row.2.1 == name).map fun row =>
      CharSet.ofTable row.2.2

/-- The general category, or group of them, of a name. -/
def generalCategory? (name : String) : Option CharSet :=
  if name = "any" then some CharSet.all
  else if name = "assigned" then some CharSet.assigned
  else if name = "ascii" then some CharSet.ascii
  else if name = "cn" ∨ name = "unassigned" then some unassigned
  else if name = "c" ∨ name = "other" then
    some (CharSet.union (CharSet.categories ["Cc", "Cf", "Co"]) unassigned)
  else
    match categoryGroups.find? fun g => g.1 == name || g.2.1.contains name with
    | some (_, _, members) => some (CharSet.categories members)
    | none => category? name

/-! ## Scripts -/

/-- The code and the characters of the script of a name. Two scripts have a second short name. -/
def scriptRow? (name : String) : Option (String × CharSet) :=
  let name := if name = "qaac" then "copt" else if name = "qaai" then "zinh" else name
  (Table.scripts.find? fun row => row.1 == name || row.2.1 == name).map fun row =>
    (row.1, CharSet.ofTable row.2.2)

/-- The script of a name. -/
def script? (name : String) : Option CharSet := (scriptRow? name).map (·.2)

/-- The characters that the script of a name uses: its own and some that belong to others. The two
that stand for no script in particular lose what some script uses. -/
def scriptUsers? (name : String) : Option CharSet :=
  (scriptRow? name).map fun (code, own) =>
    if code = "zyyy" ∨ code = "zinh" then
      CharSet.diff own (CharSet.ofTable (String.intercalate " " (Table.scriptExtensions.map (·.2))))
    else CharSet.union own (CharSet.ofTable ((Table.scriptExtensions.lookup code).getD ""))

/-! ## Binary properties -/

/-- The letters, and what else is used as a letter. -/
def alphabetic : CharSet := CharSet.ofTable Table.alphabetic

/-- The characters of words: those of `alphabetic`, marks, digits, connectors, and the two joiners.
-/
def wordChars : CharSet :=
  CharSet.union alphabetic
    (CharSet.union (CharSet.categories ["Mn", "Mc", "Me", "Nd", "Pc"])
      (CharSet.range 0x200C 0x200D))

/-- The digits of positional notations. -/
def digits : CharSet := CharSet.category "Nd"

/-- What a name in a program can start with. -/
def identifierStart : CharSet :=
  CharSet.diff
    (CharSet.union (CharSet.categories ["Lu", "Ll", "Lt", "Lm", "Lo", "Nl"])
      (CharSet.ofTable "1885..1886 2118 212E 309B..309C"))
    (CharSet.singleton 0x2E2F)

/-- What a name in a program can go on with. -/
def identifierContinue : CharSet :=
  CharSet.union identifierStart
    (CharSet.union (CharSet.categories ["Mn", "Mc", "Nd", "Pc"])
      (CharSet.ofTable "B7 387 1369..1371 19DA"))

/-- What is not stable when a name is brought into a normal form. -/
def unstable : CharSet := CharSet.ofTable "37A 309B..309C FC5E..FC63 FDFA..FDFB FE70..FE7E/2"

/-- What a stable name can start with. -/
def stableStart : CharSet :=
  CharSet.diff identifierStart (CharSet.union unstable (CharSet.ofTable "E33 EB3 FF9E..FF9F"))

/-- What a stable name can go on with. -/
def stableContinue : CharSet := CharSet.diff identifierContinue unstable

/-- What has a shape and does not continue the character before it. -/
def graphemeBase : CharSet :=
  CharSet.diff CharSet.assigned
    (CharSet.union CharSet.graphemeExtend
      (CharSet.categories ["Cc", "Cf", "Cs", "Co", "Zl", "Zp"]))

/-- The properties that are not in the table, under their names. -/
def derivedProperty? (name : String) : Option CharSet :=
  match name with
  | "alpha" | "alphabetic" => some alphabetic
  | "lower" | "lowercase" => some (CharSet.ofTable Table.lowercase)
  | "upper" | "uppercase" => some (CharSet.ofTable Table.uppercase)
  | "cased" => some (CharSet.ofTable Table.cased)
  | "ci" | "caseignorable" => some (CharSet.ofTable Table.caseIgnorable)
  | "wspace" | "whitespace" | "space" => some CharSet.whiteSpace
  | "grext" | "graphemeextend" => some CharSet.graphemeExtend
  | "grbase" | "graphemebase" => some graphemeBase
  | "ids" | "idstart" => some identifierStart
  | "idc" | "idcontinue" => some identifierContinue
  | "xids" | "xidstart" => some stableStart
  | "xidc" | "xidcontinue" => some stableContinue
  | _ => none

/-- The binary property of a name. -/
def binaryProperty? (name : String) : Option CharSet :=
  (derivedProperty? name).or
    ((Table.binaryProperties.find? fun row => row.1 == name || row.2.1 == name).map fun row =>
      CharSet.ofTable row.2.2)

/-! ## Names -/

/-- A name as names are compared. -/
def normalName (name : List Char) : String :=
  let lower := name.map Char.toLower
  let body := match lower with
    | 'i' :: 's' :: rest => rest
    | cs => cs
  let kept := body.filter fun c => c.toNat < 0x80 && c != ' ' && c != '_' && c != '-'
  if lower.take 2 == ['i', 's'] && kept == ['c'] then "isc" else String.ofList kept

/-- What a pattern asks for by name. -/
inductive Property
  | named (name : List Char)
  | valued (name value : List Char)
  deriving DecidableEq, Repr

/-- The characters with a property, if there is such a property. -/
def Property.members? : Property → Option CharSet
  | .named name =>
    let name := normalName name
    let binary := if name = "cf" ∨ name = "sc" ∨ name = "lc" then none else binaryProperty? name
    (binary.or (generalCategory? name)).or (script? name)
  | .valued name value =>
    match normalName name with
    | "gc" | "generalcategory" => generalCategory? (normalName value)
    | "sc" | "script" => script? (normalName value)
    | "scx" | "scriptextensions" => scriptUsers? (normalName value)
    | _ => none

end FlagReplica.Pattern
