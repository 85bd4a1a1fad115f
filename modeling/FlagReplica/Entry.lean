import FlagReplica.Flag.Codec
import FlagReplica.Notice
/-!
# Entries

What is stored under a key: a flag, a segment, or the list of all flags or segments of an
environment. Keys are texts; `Key.text` never writes two different keys the same, whatever the
identifiers hold, because the kinds differ before the first slash.
-/

namespace FlagReplica

open Decode

/-- What is stored under a key. -/
inductive Entry
  | flag (f : Flag)
  | flags (fs : List Flag)
  | segment (s : Segment)
  | segments (ss : List Segment)
  deriving DecidableEq, Repr

/-- The newest of some versions; zero if there are none. -/
def newest : List Int64 → Int64
  | [] => 0
  | v :: vs => vs.foldl (fun a b => if a < b then b else a) v

/-- The version of an entry. A list is as new as its newest member. -/
def Entry.version : Entry → Int64
  | .flag f => f.version
  | .segment s => s.version
  | .flags fs => newest (fs.map (·.version))
  | .segments ss => newest (ss.map (·.version))

/-- What an entry is stored under. -/
inductive Key
  /-- A single thing, by its identifier. -/
  | entity (kind : EntityKind) (identifier : String)
  /-- The list of an environment. -/
  | listing (kind : EntityKind) (environment : String)
  deriving DecidableEq, Repr

/-- The text of a key. -/
def Key.text : Key → String
  | .entity .flag id => "flag/" ++ id
  | .entity .segment id => "segment/" ++ id
  | .listing .flag env => "flags/" ++ env
  | .listing .segment env => "segments/" ++ env

/-! ## Entries as JSON -/

/-- The kinds of entries. -/
inductive Entry.Tag
  | flag
  | flags
  | segment
  | segments
  deriving DecidableEq, Repr

/-- The kinds with their names. -/
def Entry.Tag.names : List (String × Entry.Tag) :=
  [("flag", .flag), ("flags", .flags), ("segment", .segment), ("segments", .segments)]

/-- Reads the kind of an entry. -/
def Entry.Tag.decoder : Decoder Entry.Tag := named (names.map (·.1)) (List.lookup · names)

/-- Reads the value of an entry of a kind. -/
def Entry.Tag.content : Entry.Tag → Decoder Entry
  | .flag, src, d => .flag <$> Flag.decoder src d
  | .flags, src, d => .flags <$> list Flag.decoder src d
  | .segment, src, d => .segment <$> Segment.decoder src d
  | .segments, src, d => .segments <$> list Segment.decoder src d

namespace Entry

/-- What of an entry has been read: its kind, its value once the kind is known, or a value that has
to wait for its kind. -/
inductive Progress
  | nothing
  | tagged (tag : Tag)
  | waiting (d : Document)
  | whole (e : Entry)

/-- Reads a member of an entry. A value that comes before its kind is read and kept. -/
def readMember (src : Source) (name : String) (d : Document) :
    Progress → Except Fault Progress
  | .nothing =>
    if name = "kind" then .tagged <$> Tag.decoder src d
    else if name = "value" then do
      force src d
      return .waiting d
    else do skip d; return .nothing
  | .tagged tag =>
    if name = "kind" then mismatch (.duplicateField "kind")
    else if name = "value" then .whole <$> tag.content src d
    else do skip d; return .tagged tag
  | .waiting v =>
    if name = "kind" then do
      let tag ← Tag.decoder src d
      .whole <$> tag.content .kept v
    else if name = "value" then mismatch (.duplicateField "value")
    else do skip d; return .waiting v
  | .whole e =>
    if name = "kind" then mismatch (.duplicateField "kind")
    else if name = "value" then mismatch (.duplicateField "value")
    else do skip d; return .whole e

/-- Reads the members of an entry. -/
def readMembers (src : Source) : List (Label × Document) → Progress → Except Fault Progress
  | [], p => .ok p
  | (label, d) :: ms, p => do
    let name ← labelName label
    readMembers src ms (← readMember src name d p)

/-- How messages name an entry. -/
def label : String := "adjacently tagged enum Entry"

/-- Reads an entry. -/
def decoder : Decoder Entry
  | src, .object ms ending => do
    let src ← descend src
    let p ← readMembers src ms .nothing
    finish ending
    match p with
    | .whole e => return e
    | .tagged _ => mismatch (.missingField "value")
    | _ => mismatch (.missingField "kind")
  | src, .array ds ending => do
    let src ← descend src
    match ds with
    | [] =>
      finish ending
      mismatch (.length 0 label)
    | tag :: ds =>
      let tag ← Tag.decoder src tag
      match ds with
      | [] =>
        finish ending
        mismatch (.length 1 label)
      | content :: rest =>
        let e ← tag.content src content
        noMore src 2 rest ending
        return e
  | _, d => wrongType d label

/-- Writes an entry. -/
def encode : Entry → Json
  | .flag f => .object [("kind", .string "flag"), ("value", f.encode)]
  | .flags fs => .object [("kind", .string "flags"), ("value", .array (fs.map (·.encode)))]
  | .segment s => .object [("kind", .string "segment"), ("value", s.encode)]
  | .segments ss =>
    .object [("kind", .string "segments"), ("value", .array (ss.map (·.encode)))]

end Entry

end FlagReplica
