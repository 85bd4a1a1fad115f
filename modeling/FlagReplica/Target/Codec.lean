import FlagReplica.Target.Basic
import FlagReplica.Json.Codec
/-!
# Targets as JSON

Custom attributes are an object of strings, numbers, booleans and nulls. Of two attributes of one
name the last counts.
-/

namespace FlagReplica

open Decode

/-- Reads an attribute's value. -/
def AttributeValue.decoder : Decoder AttributeValue :=
  oneForm "AttributeValue" [
    fun src d => .text <$> string src d,
    fun src d => .number <$> real src d,
    fun src d => .boolean <$> bool src d,
    fun src d => (fun _ => .null) <$> unit src d]

/-- Writes an attribute's value. -/
def AttributeValue.encode : AttributeValue → Json
  | .text s => .string s
  | .number x => .number (.real x)
  | .boolean b => .bool b
  | .null => .null

/-- Reads custom attributes. -/
def Attributes.decoder : Decoder Attributes := fun src d =>
  (fun entries => entries.foldl (fun (acc : Attributes) e =>
    acc.filter (·.1 ≠ e.1) ++ [e]) []) <$> dict AttributeValue.decoder src d

/-- Writes custom attributes. -/
def Attributes.encode (a : Attributes) : Json := .object (a.map fun e => (e.1, e.2.encode))

/-- Reads a target. -/
def Target.decoder : Decoder Target :=
  record "struct Target"
    (.cons "identifier" string .required <|
      .cons "name" (option string) (.default none) <|
      .cons "anonymous" (option bool) (.default none) <|
      .cons "attributes" Attributes.decoder (.default []) .nil)
    fun (identifier, name, anonymous, attributes, ()) => { identifier, name, anonymous, attributes }

/-- Writes a target. -/
def Target.encode (t : Target) : Json := .ofFields [
  ("identifier", some (.string t.identifier)), ("name", t.name.map .string),
  ("anonymous", t.anonymous.map .bool), ("attributes", some (Attributes.encode t.attributes))]

end FlagReplica
