import FlagReplica.Json.Document
import FlagReplica.Text.Quoted
/-!
# Decoding

A decoder walks a document in the order of its text and either builds a value or returns the first
fault it meets: a flaw of the text, or a mismatch between what stands there and what was expected.
Which of several faults is reported is therefore decided by the text, not by the order in which a
type lists its fields; only the fields that are missing are found at the end of an object, in that
order.

A value may have to be looked at more than once, to try one form after another, or may stand before
what says how to take it. Then all of it is read first, by `force`, so that a flaw anywhere in it
comes before every mismatch, and what was read is decoded afterwards. `Source` says which is the
case.
-/

namespace FlagReplica

/-- What stands in a document, as a message names it. -/
inductive Found
  | null
  | boolean (b : Bool)
  | integer (n : Int)
  | real (x : Binary64)
  | text (s : String)
  | sequence
  | map
  /-- A bare name, where a name with a value is needed. -/
  | bareName
  deriving DecidableEq, Repr

/-- How a document differs from what was expected. -/
inductive Mismatch
  /-- Another type. -/
  | type (found : Found) (expected : String)
  /-- An integer out of range. -/
  | range (n : Int) (expected : String)
  /-- An object that should have exactly one member. -/
  | oneMember
  /-- A sequence too short or too long for what it stands for. -/
  | length (n : Nat) (expected : String)
  /-- A name that is not one of those known. -/
  | unknownVariant (name : String) (known : List String)
  | missingField (name : String)
  | duplicateField (name : String)
  /-- None of the forms that a value can take. -/
  | noForm (name : String)
  deriving DecidableEq, Repr

/-- The first fault of a document. -/
inductive Fault
  | flaw (flaw : Flaw)
  | mismatch (m : Mismatch)
  deriving DecidableEq, Repr

namespace Found

/-- The wording of what was found. -/
def message : Found → String
  | .null => "null"
  | .boolean b => "boolean `" ++ toString b ++ "`"
  | .integer n => "integer `" ++ Text.decimalInt n ++ "`"
  | .real x => "floating point `" ++ Number.layout.write x ++ "`"
  | .text s => "string " ++ Text.quoted s
  | .sequence => "sequence"
  | .map => "map"
  | .bareName => "unit variant"

end Found

namespace Mismatch

/-- A list of names to choose from. -/
def oneOf : List String → String
  | [] => "there are no variants"
  | [a] => "expected `" ++ a ++ "`"
  | [a, b] => "expected `" ++ a ++ "` or `" ++ b ++ "`"
  | names => "expected one of " ++ String.intercalate ", " (names.map fun n => "`" ++ n ++ "`")

/-- The wording of a mismatch. -/
def message : Mismatch → String
  | .type found expected => "invalid type: " ++ found.message ++ ", expected " ++ expected
  | .range n expected =>
    "invalid value: integer `" ++ Text.decimalInt n ++ "`, expected " ++ expected
  | .oneMember => "invalid value: map, expected map with a single key"
  | .length n expected => "invalid length " ++ Text.decimal n ++ ", expected " ++ expected
  | .unknownVariant name [] => "unknown variant `" ++ name ++ "`, there are no variants"
  | .unknownVariant name known => "unknown variant `" ++ name ++ "`, " ++ oneOf known
  | .missingField name => "missing field `" ++ name ++ "`"
  | .duplicateField name => "duplicate field `" ++ name ++ "`"
  | .noForm name => "data did not match any variant of untagged enum " ++ name

end Mismatch

/-- What a decoder walks. -/
inductive Source
  /-- A text, in which so many levels of brackets may still be opened. -/
  | text (levels : Nat)
  /-- A part of a text that was read before, to be looked at more than once. -/
  | buffer
  /-- A part of a text that was read before, because what it is stood behind it. -/
  | kept
  /-- A value. -/
  | value
  deriving DecidableEq, Repr

/-- What reads a value of a type from a document. -/
abbrev Decoder (α : Type) := Source → Document → Except Fault α

namespace Decode

variable {α β γ : Type}

/-- Fails with a flaw of the text. -/
def flaw (f : Flaw) : Except Fault α := .error (.flaw f)

/-- Fails with a mismatch. -/
def mismatch (m : Mismatch) : Except Fault α := .error (.mismatch m)

/-- How deep the brackets of a text may be nested. -/
def maxLevels : Nat := 127

/-- One level of brackets further in. -/
def descend : Source → Except Fault Source
  | .text 0 => flaw .malformed
  | .text (n + 1) => .ok (.text n)
  | s => .ok s

/-- What a list that has no more items ends with. -/
def finish : Ending → Except Fault Unit
  | .closed => .ok ()
  | .cut f => flaw f
  | .afterComma => flaw .truncated

/-- Fails since what stands here is not what was expected. A flaw comes before that. -/
def wrongType (d : Document) (expected : String) : Except Fault α :=
  match d with
  | .null => mismatch (.type .null expected)
  | .bool b => mismatch (.type (.boolean b) expected)
  | .number (.int n) => mismatch (.type (.integer n) expected)
  | .number (.real x) =>
    if x.isFinite then mismatch (.type (.real x) expected) else flaw .malformed
  | .string s => mismatch (.type (.text s) expected)
  | .array _ _ => mismatch (.type .sequence expected)
  | .object _ _ => mismatch (.type .map expected)
  | .unpaired _ => flaw .malformed
  | .broken f => flaw f

/-! ## Passing over, and reading all of a value -/

mutual

/-- Passes over a value. It has to be well formed, but may be out of range. -/
def skip : Document → Except Fault Unit
  | .unpaired (some f) => flaw f
  | .array items ending => do skipItems items; finish ending
  | .object members ending => do skipMembers members; finish ending
  | .broken f => flaw f
  | _ => .ok ()

/-- Passes over items. -/
def skipItems : List Document → Except Fault Unit
  | [] => .ok ()
  | d :: ds => do skip d; skipItems ds

/-- Passes over members. -/
def skipMembers : List (Label × Document) → Except Fault Unit
  | [] => .ok ()
  | (label, d) :: ms => do
    match label with
    | .unpaired (some f) => flaw f
    | .broken f => flaw f
    | .other => flaw .malformed
    | _ => pure ()
    skip d
    skipMembers ms

end

mutual

/-- Reads all of a value. -/
def force (src : Source) : Document → Except Fault Unit
  | .number (.real x) => if x.isFinite then .ok () else flaw .malformed
  | .unpaired _ => flaw .malformed
  | .array items ending => do
    let src ← descend src
    forceItems src items
    finish ending
  | .object members ending => do
    let src ← descend src
    forceMembers src members
    finish ending
  | .broken f => flaw f
  | _ => .ok ()

/-- Reads all of some items. -/
def forceItems (src : Source) : List Document → Except Fault Unit
  | [] => .ok ()
  | d :: ds => do force src d; forceItems src ds

/-- Reads all of some members. -/
def forceMembers (src : Source) : List (Label × Document) → Except Fault Unit
  | [] => .ok ()
  | (label, d) :: ms => do
    match label with
    | .name _ => pure ()
    | .broken f => flaw f
    | _ => flaw .malformed
    force src d
    forceMembers src ms

end

/-- Reads all of a value, unless that was done before. -/
def buffered (dec : Decoder α) : Decoder α
  | .text n, d => do force (.text n) d; dec .buffer d
  | .kept, d => dec .buffer d
  | src, d => dec src d

/-! ## Single values -/

/-- A string. -/
def string : Decoder String
  | _, .string s => .ok s
  | _, d => wrongType d "a string"

/-- A boolean. -/
def bool : Decoder Bool
  | _, .bool b => .ok b
  | _, d => wrongType d "a boolean"

/-- An integer in a range, under the name that messages give it. -/
def int (lo hi : Int) (name : String) : Decoder Int
  | _, .number (.int n) => if lo ≤ n ∧ n ≤ hi then .ok n else mismatch (.range n name)
  | _, d => wrongType d name

/-- A real number. Integers are rounded to the nearest. -/
def real : Decoder Binary64
  | _, .number n => if n.toBinary64.isFinite then .ok n.toBinary64 else flaw .malformed
  | _, d => wrongType d "f64"

/-- Nothing. In a part that was kept, an object without members is nothing too. -/
def unit : Decoder Unit
  | _, .null => .ok ()
  | .kept, .object [] _ => .ok ()
  | _, d => wrongType d "unit"

/-- A value, or null for none. -/
def option (dec : Decoder α) : Decoder (Option α)
  | _, .null => .ok none
  | src, d => some <$> dec src d

/-! ## Sequences and dictionaries -/

/-- Items one after the other. -/
def items (dec : Decoder α) (src : Source) : List Document → Except Fault (List α)
  | [] => .ok []
  | d :: ds => do return (← dec src d) :: (← items dec src ds)

/-- A sequence. -/
def list (dec : Decoder α) : Decoder (List α)
  | src, .array ds ending => do
    let src ← descend src
    let xs ← items dec src ds
    finish ending
    return xs
  | _, d => wrongType d "a sequence"

/-- The name that a label stands for. -/
def labelName : Label → Except Fault String
  | .name s => .ok s
  | .broken f => flaw f
  | _ => flaw .malformed

/-- Members one after the other. -/
def entries (dec : Decoder α) (src : Source) :
    List (Label × Document) → Except Fault (List (String × α))
  | [] => .ok []
  | (label, d) :: ms => do
    let name ← labelName label
    let x ← dec src d
    return (name, x) :: (← entries dec src ms)

/-- A dictionary, in the order of the text. -/
def dict (dec : Decoder α) : Decoder (List (String × α))
  | src, .object ms ending => do
    let src ← descend src
    let xs ← entries dec src ms
    finish ending
    return xs
  | _, d => wrongType d "a map"

/-! ## Records -/

/-- What stands for a field that is missing. -/
inductive Absent (α : Type)
  /-- Nothing does: the field is required. -/
  | required
  /-- A value. -/
  | default (x : α)
  /-- A value, but only where fields go by name: in a sequence the field is required. -/
  | named (x : α)

/-- The fields of a record in the order they are declared. -/
inductive Fields : Type → Type 1
  | nil : Fields Unit
  | cons {α β : Type} (name : String) (dec : Decoder α) (absent : Absent α) (rest : Fields β) :
    Fields (α × β)

namespace Fields

/-- What has been read of the fields. -/
def Slots : {α : Type} → Fields α → Type
  | _, .nil => Unit
  | _, .cons (α := α) _ _ _ rest => Option α × rest.Slots

/-- Nothing read yet. -/
def noSlots : {α : Type} → (fs : Fields α) → fs.Slots
  | _, .nil => ()
  | _, .cons _ _ _ rest => (none, rest.noSlots)

/-- The number of fields. -/
def count : {α : Type} → Fields α → Nat
  | _, .nil => 0
  | _, .cons _ _ _ rest => rest.count + 1

/-- Reads the member of a name into its slot. A second member of a name is refused before its value
is looked at, and a name that is no field's is passed over. -/
def readMember (src : Source) (name : String) (d : Document) :
    {α : Type} → (fs : Fields α) → fs.Slots → Except Fault fs.Slots
  | _, .nil, slots => do skip d; return slots
  | _, .cons field dec _ rest, slots =>
    if name = field then
      match slots.1 with
      | some _ => mismatch (.duplicateField field)
      | none => do return (some (← dec src d), slots.2)
    else do return (slots.1, ← rest.readMember src name d slots.2)

/-- Reads members in the order of the text. -/
def readMembers (src : Source) {α : Type} (fs : Fields α) :
    List (Label × Document) → fs.Slots → Except Fault fs.Slots
  | [], slots => .ok slots
  | (label, d) :: ms, slots => do
    let name ← labelName label
    readMembers src fs ms (← fs.readMember src name d slots)

/-- The record, once all members are read. The first field that is missing and required is the
fault. -/
def collect : {α : Type} → (fs : Fields α) → fs.Slots → Except Fault α
  | _, .nil, _ => .ok ()
  | _, .cons name _ absent rest, slots => do
    let x ← match slots.1, absent with
      | some x, _ => pure x
      | none, .default x => pure x
      | none, .named x => pure x
      | none, .required => mismatch (.missingField name)
    return (x, ← rest.collect slots.2)

/-- Reads fields by position, and what is left of the items. -/
def readItems (src : Source) (expected : String) (ending : Ending) :
    {α : Type} → Nat → Fields α → List Document → Except Fault (α × List Document)
  | _, _, .nil, ds => .ok ((), ds)
  | _, i, .cons _ dec _ rest, d :: ds => do
    let x ← dec src d
    let (xs, ds) ← rest.readItems src expected ending (i + 1) ds
    return ((x, xs), ds)
  | _, i, .cons _ _ absent rest, [] => do
    finish ending
    match absent with
    | .default x =>
      let (xs, ds) ← rest.readItems src expected ending (i + 1) []
      return ((x, xs), ds)
    | _ => mismatch (.length i expected)

end Fields

/-- Refuses items after the last field. -/
def noMore (src : Source) (fields : Nat) (rest : List Document) (ending : Ending) :
    Except Fault Unit :=
  match rest, ending with
  | [], .afterComma => flaw .malformed
  | [], ending => finish ending
  | rest, _ =>
    match src with
    | .text _ => flaw .malformed
    | .value => mismatch (.length (fields + rest.length) "fewer elements in array")
    | .buffer | .kept =>
      mismatch (.length (fields + rest.length)
        (Text.decimal fields ++ (if fields = 1 then " element" else " elements") ++ " in sequence"))

/-- A record: an object with its fields by name, or a sequence with its fields in order. -/
def record (name : String) (fs : Fields α) (build : α → β) : Decoder β
  | src, .object ms ending => do
    let src ← descend src
    let slots ← fs.readMembers src ms fs.noSlots
    finish ending
    return build (← fs.collect slots)
  | src, .array ds ending => do
    let src ← descend src
    let expected := name ++ " with " ++ Text.decimal fs.count ++
      (if fs.count = 1 then " element" else " elements")
    let (x, rest) ← fs.readItems src expected ending 0 ds
    noMore src fs.count rest ending
    return build x
  | _, d => wrongType d name

/-! ## Choices -/

/-- A name, or an object with a name for its one member, which holds what belongs to the choice.
The name is looked at before the value. -/
def choice (pick : String → Except Fault α)
    (body : α → Source → Option Document → Except Fault β) : Decoder β
  | src, .string s => do
    let a ← pick s
    body a src none
  | .text n, .object ms ending => do
    let src ← descend (.text n)
    match ms with
    | [] =>
      finish ending
      flaw .malformed
    | (label, d) :: more =>
      let name ← match label with
        | .other => wrongType d "variant identifier"
        | label => labelName label
      let a ← pick name
      let b ← body a src (some d)
      match more, ending with
      | [], .closed => return b
      | [], .cut f => flaw f
      | _, _ => flaw .malformed
  | src, .object ms _ =>
    match ms with
    | [(label, d)] => do
      let a ← pick (← labelName label)
      body a src (some d)
    | _ => mismatch .oneMember
  | .text _, .unpaired _ => flaw .malformed
  | .text _, .broken f => flaw f
  | .text _, _ => flaw .malformed
  | _, d => wrongType d "string or map"

/-- A choice that holds nothing. -/
def noBody (a : α) (src : Source) : Option Document → Except Fault α
  | none => .ok a
  | some d => do unit src d; return a

/-- One of the names known. The names that a message lists may hold second names of a choice. -/
def named (known : List String) (pick? : String → Option α) : Decoder α :=
  choice (fun s => match pick? s with
    | some a => .ok a
    | none => mismatch (.unknownVariant s known)) noBody

/-- The first form that fits, of a value read before. -/
def oneForm (name : String) (forms : List (Decoder α)) : Decoder α :=
  buffered fun src d =>
    match forms.findSome? fun dec => (dec src d).toOption with
    | some x => .ok x
    | none => mismatch (.noForm name)

/-- A value, or what stands there if that is no such value. -/
def lenient (dec : Decoder α) : Decoder (Except Json α) :=
  buffered fun src d => match dec src d with
    | .ok x => .ok (.ok x)
    | .error _ => .ok (.error d.toJson.normal)

/-- Any value. -/
def json : Decoder Json := buffered fun _ d => .ok d.toJson.normal

/-! ## Texts -/

/-- A text that holds a value and nothing after it. -/
def text (dec : Decoder α) (s : String) : Except Fault α := do
  let (d, rest) := Document.read s.toList
  let x ← dec (.text maxLevels) d
  match rest with
  | some rest => if (Document.skipBlanks rest).isEmpty then return x else flaw .malformed
  | none => flaw .malformed

/-- A value. -/
def value (dec : Decoder α) (j : Json) : Except Fault α := dec .value (.ofJson j)

end Decode

/-- The value that a text holds. -/
def Json.parse (s : String) : Except Fault Json := Decode.text Decode.json s

end FlagReplica
