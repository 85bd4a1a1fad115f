import FlagReplica.Flag.Basic
import FlagReplica.Text.Quoted
/-!
# Why an evaluation fails

The causes, and the wording of each.
-/

namespace FlagReplica

/-- The name of a kind in messages. -/
def FlagKind.label : FlagKind → String
  | .boolean => "Boolean"
  | .string => "String"
  | .int => "Int"
  | .json => "Json"

/-- Why an evaluation fails. -/
inductive EvaluationError
  /-- There is no such flag. -/
  | flagNotFound (flag : String)
  /-- The flag resolved to a variation that it does not have. -/
  | variationNotFound (flag variation : String)
  /-- The flag resolved to no variation. -/
  | noVariation (flag : String)
  /-- The flag is of another kind than was asked for. -/
  | kindMismatch (expected found : FlagKind)
  /-- The value of the variation cannot be read as what was asked for. -/
  | invalidValue (expected : FlagKind) (value : String)
  deriving DecidableEq, Repr, Inhabited

namespace EvaluationError

/-- The wording of an error. -/
def message : EvaluationError → String
  | .flagNotFound flag => "flag not found: " ++ flag
  | .variationNotFound flag variation => "variation " ++ variation ++ " not found in flag " ++ flag
  | .noVariation flag => "no variation could be resolved for flag " ++ flag
  | .kindMismatch expected found =>
    "invalid flag kind (expected: " ++ expected.label ++ ", found: " ++ found.label ++ ")"
  | .invalidValue expected value =>
    "variation value " ++ Text.quoted value ++ " cannot be parsed as " ++ expected.label

/-- Whether the error is nothing unusual: a flag that is not there, or not there yet. -/
def isExpected : EvaluationError → Bool
  | .flagNotFound _ => true
  | _ => false

end EvaluationError

end FlagReplica
