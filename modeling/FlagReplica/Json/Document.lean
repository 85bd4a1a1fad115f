import FlagReplica.Decimal.Approximation
import FlagReplica.Json.Value
/-!
# What can be read of a JSON text

A text that is cut short or breaks the grammar still has a beginning, and a reader that knows what
it expects finds fault with that beginning first: a wrong type in front of a missing brace is a
wrong type. So reading never fails. `Document.read` makes of every text the tree of what stands
before its first flaw, with the flaw at the place where it was met, and what a document is decoded
to, or what is wrong with it, is found by walking that tree in the order of the text.

Three flaws do not stop the reading, because a reader that passes over the value does not mind them:
a number beyond the range of numbers, a string with half of a surrogate pair, and any depth of
brackets.
-/

namespace FlagReplica

/-- Why a text cannot be read further. -/
inductive Flaw
  /-- The text ends too early. -/
  | truncated
  /-- The text breaks the grammar. -/
  | malformed
  deriving DecidableEq, Repr, Inhabited

/-- How a list of items or members ends. -/
inductive Ending
  /-- By its closing bracket. -/
  | closed
  /-- By a flaw, where a comma or the bracket should be. -/
  | cut (flaw : Flaw)
  /-- By the end of the text, after a comma. -/
  | afterComma
  deriving DecidableEq, Repr, Inhabited

/-- What stands where an object needs a name. -/
inductive Label
  /-- A name. -/
  | name (s : String)
  /-- A string with half of a surrogate pair, and the flaw that ends it, if one does. -/
  | unpaired (flaw : Option Flaw)
  /-- A string that a flaw stopped. -/
  | broken (flaw : Flaw)
  /-- Something that is no string. -/
  | other
  deriving DecidableEq, Repr, Inhabited

/-- What can be read of a text. -/
inductive Document
  | null
  | bool (b : Bool)
  /-- A number. One that is not finite stands for all beyond the range. -/
  | number (n : Number)
  | string (s : String)
  /-- A string with half of a surrogate pair, and the flaw that ends it, if one does. -/
  | unpaired (flaw : Option Flaw)
  | array (items : List Document) (ending : Ending)
  | object (members : List (Label × Document)) (ending : Ending)
  /-- No value, but a flaw. -/
  | broken (flaw : Flaw)
  deriving Inhabited

namespace Document

/-- The blanks of the format. -/
def isBlank (c : Char) : Bool := c == ' ' || c == '\n' || c == '\t' || c == '\r'

/-- The text from its first character that is no blank. -/
def skipBlanks (cs : List Char) : List Char := cs.dropWhile isBlank

/-! ## Strings -/

/-- How many bytes a text takes, counted up to a limit. -/
def bytesUpTo : Nat → List Char → Nat
  | 0, _ => 0
  | _, [] => 0
  | n + 1, c :: cs => c.utf8Size + bytesUpTo n cs

/-- The four digits of an escape. The format counts bytes: fewer than four of them are an early end,
whatever they hold. -/
def readHex4 (cs : List Char) : Except Flaw (Nat × List Char) :=
  if bytesUpTo 4 cs < 4 then .error .truncated
  else
    match cs with
    | a :: b :: c :: d :: rest =>
      match Text.ofDigits? 16 [a, b, c, d] with
      | some n => .ok (n, rest)
      | none => .error .malformed
    | _ => .error .malformed

/-- The character of an escape by one letter. -/
def letterEscape? (c : Char) : Option Char :=
  if c = '"' then some '"'
  else if c = '\\' then some '\\'
  else if c = '/' then some '/'
  else if c = 'b' then some '\x08'
  else if c = 'f' then some '\x0c'
  else if c = 'n' then some '\n'
  else if c = 'r' then some '\r'
  else if c = 't' then some '\t'
  else none

/-- One escape, after its `u`: the code, or nothing for half of a pair, and the rest. -/
def readCode (cs : List Char) : Except Flaw (Option Char × List Char) := do
  let (high, rest) ← readHex4 cs
  if high < 0xD800 ∨ 0xDFFF < high then
    return (some (Char.ofNat high), rest)
  if 0xDC00 ≤ high then
    return (none, rest)
  match rest with
  | [] => throw .truncated
  | '\\' :: [] => throw .truncated
  | '\\' :: 'u' :: after =>
    let (low, after) ← readHex4 after
    if 0xDC00 ≤ low ∧ low ≤ 0xDFFF then
      return (some (Char.ofNat (0x10000 + (high - 0xD800) * 0x400 + (low - 0xDC00))), after)
    else return (none, after)
  | _ => return (none, rest)

/-- What became of a string literal. -/
inductive Literal
  /-- It closed; without a text if it holds half of a surrogate pair. -/
  | closed (text : Option String) (rest : List Char)
  /-- A flaw came first; after half of a surrogate pair, or not. -/
  | stopped (unpaired : Bool) (flaw : Flaw)

/-- A string literal after its opening quote. The characters read so far come last first; there are
none once half of a surrogate pair was met. -/
def readString : Nat → Option (List Char) → List Char → Literal
  | 0, acc, _ => .stopped acc.isNone .malformed
  | _, acc, [] => .stopped acc.isNone .truncated
  | fuel + 1, acc, c :: cs =>
    if c = '"' then .closed (acc.map fun text => String.ofList text.reverse) cs
    else if c = '\\' then
      match cs with
      | [] => .stopped acc.isNone .truncated
      | 'u' :: cs =>
        match readCode cs with
        | .error flaw => .stopped acc.isNone flaw
        | .ok (code, rest) => readString fuel (do some ((← code) :: (← acc))) rest
      | e :: cs =>
        match letterEscape? e with
        | some c => readString fuel (acc.map (c :: ·)) cs
        | none => .stopped acc.isNone .malformed
    else if c.toNat < 0x20 then .stopped acc.isNone .malformed
    else readString fuel (acc.map (c :: ·)) cs

/-! ## Numbers -/

/-- The digits a text must start with, and the rest. -/
def readDigits (cs : List Char) : Except Flaw (List Char × List Char) :=
  match Text.spanDigits 10 cs with
  | ([], []) => .error .truncated
  | ([], _) => .error .malformed
  | (ds, rest) => .ok (ds, rest)

/-- The whole part: zero alone, or digits that start with another. -/
def readWhole (cs : List Char) : Except Flaw (List Char × List Char) := do
  let (ds, rest) ← readDigits cs
  match ds with
  | '0' :: _ :: _ => throw .malformed
  | _ => return (ds, rest)

/-- The fraction, if there is a point. -/
def readFraction : List Char → Except Flaw (Option (List Char) × List Char)
  | '.' :: cs => do
    let (ds, rest) ← readDigits cs
    return (some ds, rest)
  | cs => .ok (none, cs)

/-- The exponent, if there is one. -/
def readExponent : List Char → Except Flaw (Option Int × List Char)
  | [] => .ok (none, [])
  | c :: cs =>
    if c = 'e' ∨ c = 'E' then do
      let (negative, cs) := match cs with
        | '-' :: cs => (true, cs)
        | '+' :: cs => (false, cs)
        | cs => (false, cs)
      let (ds, rest) ← readDigits cs
      let n := Text.appendDigits 10 0 ds
      return (some (if negative then -n else n), rest)
    else .ok (none, c :: cs)

/-- The number of its parts. One without a point and an exponent is an integer if it is small
enough, but minus zero is not. -/
def numberOf (negative : Bool) (whole : List Char) (fraction : Option (List Char))
    (exponent : Option Int) : Number :=
  let n := Text.appendDigits 10 0 whole
  let i : Int := if negative then -n else n
  if fraction.isNone && exponent.isNone && Number.isSmall i && !(negative && n == 0) then .int i
  else .real (Decimal.approximate negative whole (fraction.getD []) (exponent.getD 0))

/-- A number without its sign. -/
def readNumber (negative : Bool) (cs : List Char) : Except Flaw (Number × List Char) := do
  let (whole, rest) ← readWhole cs
  let (fraction, rest) ← readFraction rest
  let (exponent, rest) ← readExponent rest
  return (numberOf negative whole fraction exponent, rest)

/-! ## Values -/

/-- Reads the letters of a word. -/
def readWord (value : Document) : List Char → List Char → Document × Option (List Char)
  | [], cs => (value, some cs)
  | _ :: _, [] => (.broken .truncated, none)
  | w :: ws, c :: cs => if w = c then readWord value ws cs else (.broken .malformed, none)

mutual

/-- The value that a text starts with, and the rest, unless a flaw stopped the reading. -/
def readValue : Nat → List Char → Document × Option (List Char)
  | 0, _ => (.broken .malformed, none)
  | fuel + 1, cs =>
    match skipBlanks cs with
    | [] => (.broken .truncated, none)
    | c :: cs =>
      if c = '"' then
        match readString (cs.length + 1) (some []) cs with
        | .closed (some s) rest => (.string s, some rest)
        | .closed none rest => (.unpaired none, some rest)
        | .stopped false flaw => (.broken flaw, none)
        | .stopped true flaw => (.unpaired (some flaw), none)
      else if c = '[' then
        let (items, ending, rest) := readItems fuel true cs
        (.array items ending, rest)
      else if c = '{' then
        let (members, ending, rest) := readMembers fuel true cs
        (.object members ending, rest)
      else if c = '-' then
        match readNumber true cs with
        | .ok (n, rest) => (.number n, some rest)
        | .error flaw => (.broken flaw, none)
      else if Text.isDigitOf 10 c then
        match readNumber false (c :: cs) with
        | .ok (n, rest) => (.number n, some rest)
        | .error flaw => (.broken flaw, none)
      else if c = 'n' then readWord .null ['u', 'l', 'l'] cs
      else if c = 't' then readWord (.bool true) ['r', 'u', 'e'] cs
      else if c = 'f' then readWord (.bool false) ['a', 'l', 's', 'e'] cs
      else (.broken .malformed, none)

/-- The items up to the closing bracket. -/
def readItems : Nat → Bool → List Char → List Document × Ending × Option (List Char)
  | 0, _, _ => ([], .cut .malformed, none)
  | fuel + 1, first, cs =>
    match skipBlanks cs with
    | [] => ([], .cut .truncated, none)
    | c :: cs =>
      if c = ']' then ([], .closed, some cs)
      else if first then readItem fuel (c :: cs)
      else if c = ',' then
        match skipBlanks cs with
        | [] => ([], .afterComma, none)
        | cs => readItem fuel cs
      else ([], .cut .malformed, none)

/-- One item, and the items after it. -/
def readItem : Nat → List Char → List Document × Ending × Option (List Char)
  | 0, _ => ([], .cut .malformed, none)
  | fuel + 1, cs =>
    match readValue fuel cs with
    | (item, none) => ([item], .cut .malformed, none)
    | (item, some rest) =>
      let (items, ending, rest) := readItems fuel false rest
      (item :: items, ending, rest)

/-- The members up to the closing brace. -/
def readMembers : Nat → Bool → List Char → List (Label × Document) × Ending × Option (List Char)
  | 0, _, _ => ([], .cut .malformed, none)
  | fuel + 1, first, cs =>
    match skipBlanks cs with
    | [] => ([], .cut .truncated, none)
    | c :: cs =>
      if c = '}' then ([], .closed, some cs)
      else if first then readMember fuel (c :: cs)
      else if c = ',' then
        match skipBlanks cs with
        | [] => ([], .afterComma, none)
        | cs => readMember fuel cs
      else ([], .cut .malformed, none)

/-- One member, and the members after it. -/
def readMember : Nat → List Char → List (Label × Document) × Ending × Option (List Char)
  | 0, _ => ([], .cut .malformed, none)
  | _, [] => ([], .cut .truncated, none)
  | fuel + 1, c :: cs =>
    if c = '"' then
      match readString (cs.length + 1) (some []) cs with
      | .stopped false flaw => ([(.broken flaw, .broken flaw)], .cut flaw, none)
      | .stopped true flaw => ([(.unpaired (some flaw), .broken flaw)], .cut flaw, none)
      | .closed text rest =>
        let label := match text with
          | some s => .name s
          | none => .unpaired none
        match skipBlanks rest with
        | [] => ([(label, .broken .truncated)], .cut .truncated, none)
        | ':' :: rest =>
          match readValue fuel rest with
          | (value, none) => ([(label, value)], .cut .malformed, none)
          | (value, some rest) =>
            let (members, ending, rest) := readMembers fuel false rest
            ((label, value) :: members, ending, rest)
        | _ => ([(label, .broken .malformed)], .cut .malformed, none)
    else ([(.other, (readValue fuel (c :: cs)).1)], .cut .malformed, none)

end

/-- What can be read of a text, and what follows the value, unless a flaw stopped the reading. -/
def read (cs : List Char) : Document × Option (List Char) := readValue (3 * cs.length + 3) cs

mutual

/-- The document of a value: all of it can be read. -/
def ofJson : Json → Document
  | .null => .null
  | .bool b => .bool b
  | .number n => .number n
  | .string s => .string s
  | .array items => .array (ofItems items) .closed
  | .object members => .object (ofMembers members) .closed

/-- The documents of items. -/
def ofItems : List Json → List Document
  | [] => []
  | j :: js => ofJson j :: ofItems js

/-- The documents of members. -/
def ofMembers : List (String × Json) → List (Label × Document)
  | [] => []
  | (k, j) :: ms => (.name k, ofJson j) :: ofMembers ms

end

mutual

/-- The value of a document without flaws. What has a flaw counts as null. -/
def toJson : Document → Json
  | .null => .null
  | .bool b => .bool b
  | .number n => .number n
  | .string s => .string s
  | .array items _ => .array (toItems items)
  | .object members _ => .object (toMembers members)
  | .unpaired _ => .null
  | .broken _ => .null

/-- The values of items. -/
def toItems : List Document → List Json
  | [] => []
  | d :: ds => toJson d :: toItems ds

/-- The values of members. -/
def toMembers : List (Label × Document) → List (String × Json)
  | [] => []
  | (.name k, d) :: ms => (k, toJson d) :: toMembers ms
  | (_, _) :: ms => toMembers ms

end

end Document

end FlagReplica
