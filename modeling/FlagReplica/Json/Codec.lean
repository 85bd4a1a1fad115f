import FlagReplica.Json.Decode
/-!
# Pieces of codecs

The numbers of fixed width as the format holds them, and objects whose fields may be left out.
-/

namespace FlagReplica

namespace Decode

/-- An integer of sixty-four bits with a sign. -/
def int64 : Decoder Int64 := fun src d =>
  Int64.ofInt <$> int (-0x8000000000000000) 0x7FFFFFFFFFFFFFFF "i64" src d

/-- An integer of thirty-two bits with a sign. -/
def int32 : Decoder Int32 := fun src d => Int32.ofInt <$> int (-0x80000000) 0x7FFFFFFF "i32" src d

/-- An integer of thirty-two bits without a sign. -/
def uint32 : Decoder UInt32 := fun src d =>
  (UInt32.ofNat ·.toNat) <$> int 0 0xFFFFFFFF "u32" src d

end Decode

namespace Json

/-- An integer. -/
def ofInt (n : Int) : Json := .number (.int n)

/-- A list of strings. -/
def ofStrings (xs : List String) : Json := .array (xs.map .string)

/-- An object with the fields that have a value, in order. -/
def ofFields (fields : List (String × Option Json)) : Json :=
  .object (fields.filterMap fun f => f.2.map fun v => (f.1, v))

end Json

end FlagReplica
