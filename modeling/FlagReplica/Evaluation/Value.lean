import FlagReplica.Decimal.Literal
import FlagReplica.Evaluation.Error
import FlagReplica.Json.Decode
import FlagReplica.Text.Blank
/-!
# The value of a variation

A variation holds a text, and a caller asks for it as a boolean, an integer, a number or a JSON
value. Each reading either succeeds or is an `EvaluationError.invalidValue` that names the kind of
flag the caller took it for. Blanks around an integer or a number do not matter, those around a
boolean do.
-/

namespace FlagReplica.Variation

/-- The spellings of the two booleans. -/
def boolNames : List (String × Bool) := [
  ("1", true), ("t", true), ("T", true), ("true", true), ("TRUE", true), ("True", true),
  ("0", false), ("f", false), ("F", false), ("false", false), ("FALSE", false), ("False", false)]

/-- The boolean that a text spells. -/
def bool? (s : String) : Option Bool := boolNames.lookup s

/-- The integer that a text writes. -/
def int? (s : String) : Option Int64 := Int64.ofInt <$> Decimal.int64? (Text.trim s.toList)

/-- The number that a text writes. -/
def number? (s : String) : Option Binary64 := Decimal.number? (Text.trim s.toList)

/-- The JSON value that a text holds. -/
def json? (s : String) : Option Json := (Json.parse s).toOption

/-- What a reading makes of the variation's value. -/
def readAs {α : Type} (kind : FlagKind) (read? : String → Option α) (v : Variation) :
    Except EvaluationError α :=
  match read? v.value with
  | some x => .ok x
  | none => .error (.invalidValue kind v.value)

/-- The value as a boolean. -/
def asBool : Variation → Except EvaluationError Bool := readAs .boolean bool?

/-- The value as an integer. -/
def asInt : Variation → Except EvaluationError Int64 := readAs .int int?

/-- The value as a number. A flag of numbers is one of integers, as far as kinds go. -/
def asNumber : Variation → Except EvaluationError Binary64 := readAs .int number?

/-- The value as a JSON value. -/
def asJson : Variation → Except EvaluationError Json := readAs .json json?

/-- The value as it is. -/
def asString (v : Variation) : Except EvaluationError String := .ok v.value

end FlagReplica.Variation
