import FlagReplica.Evaluation.Trace
import FlagReplica.Flag.Codec
/-!
# Results of evaluation as JSON

Errors are tagged by the name of their cause. A trace writes its variation or its error only if it
has one.
-/

namespace FlagReplica

open Decode

namespace EvaluationError

/-- The tags of errors. -/
inductive Tag
  | flagNotFound
  | variationNotFound
  | noVariation
  | kindMismatch
  | invalidValue
  deriving DecidableEq, Repr

/-- The tags with their names. -/
def Tag.names : List (String × Tag) := [
  ("FlagNotFound", .flagNotFound), ("VariationNotFound", .variationNotFound),
  ("EvaluationFlag", .noVariation), ("FlagKindMismatch", .kindMismatch),
  ("InvalidValue", .invalidValue)]

/-- The name of an error's tag. -/
def tagName : EvaluationError → String
  | .flagNotFound _ => "FlagNotFound"
  | .variationNotFound _ _ => "VariationNotFound"
  | .noVariation _ => "EvaluationFlag"
  | .kindMismatch _ _ => "FlagKindMismatch"
  | .invalidValue _ _ => "InvalidValue"

/-- What belongs to a tag, which a tag cannot do without. -/
def body (expected : String) (dec : Decoder EvaluationError) (src : Source) :
    Option Document → Except Fault EvaluationError
  | some d => dec src d
  | none => mismatch (.type .bareName expected)

/-- Reads an error. -/
def decoder : Decoder EvaluationError :=
  choice
    (fun s => match Tag.names.lookup s with
      | some tag => .ok tag
      | none => mismatch (.unknownVariant s (Tag.names.map (·.1))))
    fun
      | .flagNotFound => body "newtype variant" fun src d => .flagNotFound <$> string src d
      | .noVariation => body "newtype variant" fun src d => .noVariation <$> string src d
      | .variationNotFound =>
        body "struct variant" <| record "struct variant EvaluationError::VariationNotFound"
          (.cons "flag" string .required <| .cons "variation" string .required .nil)
          fun (flag, variation, ()) => .variationNotFound flag variation
      | .kindMismatch =>
        body "struct variant" <| record "struct variant EvaluationError::FlagKindMismatch"
          (.cons "expected" FlagKind.decoder .required <|
            .cons "found" FlagKind.decoder .required .nil)
          fun (expected, found, ()) => .kindMismatch expected found
      | .invalidValue =>
        body "struct variant" <| record "struct variant EvaluationError::InvalidValue"
          (.cons "expected" FlagKind.decoder .required <| .cons "value" string .required .nil)
          fun (expected, value, ()) => .invalidValue expected value

/-- Writes an error. -/
def encode (e : EvaluationError) : Json :=
  .object [(e.tagName, match e with
    | .flagNotFound flag => .string flag
    | .variationNotFound flag variation =>
      .object [("flag", .string flag), ("variation", .string variation)]
    | .noVariation flag => .string flag
    | .kindMismatch expected found =>
      .object [("expected", expected.encode), ("found", found.encode)]
    | .invalidValue expected value =>
      .object [("expected", expected.encode), ("value", .string value)])]

end EvaluationError

/-- Reads a checkpoint. -/
def Checkpoint.decoder : Decoder Checkpoint := named (names.map (·.1)) ofName?

/-- Writes a checkpoint. -/
def Checkpoint.encode (c : Checkpoint) : Json := .string c.name

/-- Reads a step of a trace. -/
def TraceStep.decoder : Decoder TraceStep :=
  record "struct TraceStep"
    (.cons "checkpoint" Checkpoint.decoder .required <| .cons "passed" bool .required .nil)
    fun (checkpoint, passed, ()) => { checkpoint, passed }

/-- Writes a step of a trace. -/
def TraceStep.encode (s : TraceStep) : Json :=
  .object [("checkpoint", s.checkpoint.encode), ("passed", .bool s.passed)]

/-- Reads a trace. -/
def Trace.decoder : Decoder Trace :=
  record "struct EvaluationTrace"
    (.cons "flag" string .required <|
      .cons "target" string .required <|
      .cons "steps" (list TraceStep.decoder) .required <|
      .cons "variation" (option Variation.decoder) (.named none) <|
      .cons "error" (option EvaluationError.decoder) (.named none) .nil)
    fun (flag, target, steps, variation, error, ()) => { flag, target, steps, variation, error }

/-- Writes a trace. -/
def Trace.encode (t : Trace) : Json := .ofFields [
  ("flag", some (.string t.flag)), ("target", some (.string t.target)),
  ("steps", some (.array (t.steps.map (·.encode)))),
  ("variation", t.variation.map (·.encode)), ("error", t.error.map (·.encode))]

end FlagReplica
