import FlagReplica.Flag.Basic
import FlagReplica.Json.Codec
/-!
# Flags and segments as JSON

Each type has a decoder and an encoder. Fields go by their names in the order they are declared.
Fields with a default are always written, and optional ones only if they have a value. A decoder
also takes a sequence of the fields in order.
-/

namespace FlagReplica

open Decode

/-- The kinds with their names. -/
def FlagKind.names : List (String × FlagKind) :=
  [("boolean", .boolean), ("string", .string), ("int", .int), ("json", .json)]

/-- The name of a kind. -/
def FlagKind.name : FlagKind → String
  | .boolean => "boolean"
  | .string => "string"
  | .int => "int"
  | .json => "json"

/-- Reads a kind. -/
def FlagKind.decoder : Decoder FlagKind :=
  named (FlagKind.names.map (·.1)) (List.lookup · FlagKind.names)

/-- Writes a kind. -/
def FlagKind.encode (k : FlagKind) : Json := .string k.name

/-- Reads a state. -/
def FlagState.decoder : Decoder FlagState :=
  named ["on", "off"] (List.lookup · [("on", FlagState.on), ("off", .off)])

/-- Writes a state. -/
def FlagState.encode : FlagState → Json
  | .on => .string "on"
  | .off => .string "off"

/-- Reads a variation. -/
def Variation.decoder : Decoder Variation :=
  record "struct Variation"
    (.cons "identifier" string .required <|
      .cons "name" (option string) (.default none) <|
      .cons "description" (option string) (.default none) <|
      .cons "value" string .required .nil)
    fun (identifier, name, description, value, ()) => { identifier, name, description, value }

/-- Writes a variation. -/
def Variation.encode (v : Variation) : Json := .ofFields [
  ("identifier", some (.string v.identifier)), ("name", v.name.map .string),
  ("description", v.description.map .string), ("value", some (.string v.value))]

/-- Reads a variation with its share. -/
def WeightedVariation.decoder : Decoder WeightedVariation :=
  record "struct WeightedVariation"
    (.cons "variation" string .required <| .cons "weight" uint32 .required .nil)
    fun (variation, weight, ()) => { variation, weight }

/-- Writes a variation with its share. -/
def WeightedVariation.encode (w : WeightedVariation) : Json := .ofFields [
  ("variation", some (.string w.variation)), ("weight", some (.ofInt w.weight.toNat))]

/-- Reads a distribution. -/
def Distribution.decoder : Decoder Distribution :=
  record "struct Distribution"
    (.cons "bucketBy" string .required <|
      .cons "variations" (list WeightedVariation.decoder) .required .nil)
    fun (bucketBy, variations, ()) => { bucketBy, variations }

/-- Writes a distribution. -/
def Distribution.encode (d : Distribution) : Json := .ofFields [
  ("bucketBy", some (.string d.bucketBy)),
  ("variations", some (.array (d.variations.map (·.encode))))]

/-- An object with one field that counts. -/
def singleField {α β : Type} (name : String) (dec : Decoder α) (build : α → β) : Decoder β
  | src, .object ms ending =>
    record "" (.cons name dec .required .nil) (fun x => build x.1) src (.object ms ending)
  | _, d => wrongType d "a map"

/-- Reads what is served: a distribution if there is a sound one, or else a variation. -/
def Serve.decoder : Decoder Serve :=
  oneForm "Serve" [
    singleField "distribution" Distribution.decoder .distribution,
    singleField "variation" string .variation]

/-- Writes what is served. -/
def Serve.encode : Serve → Json
  | .distribution d => .object [("distribution", d.encode)]
  | .variation id => .object [("variation", .string id)]

/-- Reads an operator. Any name is one. -/
def ClauseOperator.decoder : Decoder ClauseOperator := fun src d => ofName <$> string src d

/-- Writes an operator. -/
def ClauseOperator.encode (op : ClauseOperator) : Json := .string op.name

/-- Reads a clause. -/
def Clause.decoder : Decoder Clause :=
  record "struct Clause"
    (.cons "id" (option string) (.default none) <|
      .cons "attribute" string (.default "") <|
      .cons "op" ClauseOperator.decoder .required <|
      .cons "values" (list string) (.default []) <|
      .cons "negate" bool (.default false) .nil)
    fun (id, attributeName, op, values, negate, ()) => { id, attributeName, op, values, negate }

/-- Writes a clause. -/
def Clause.encode (c : Clause) : Json := .ofFields [
  ("id", c.id.map .string), ("attribute", some (.string c.attributeName)),
  ("op", some c.op.encode), ("values", some (.ofStrings c.values)),
  ("negate", some (.bool c.negate))]

/-- Reads a rule. -/
def ServingRule.decoder : Decoder ServingRule :=
  record "struct ServingRule"
    (.cons "ruleId" (option string) (.default none) <|
      .cons "priority" int32 .required <|
      .cons "clauses" (list Clause.decoder) (.default []) <|
      .cons "serve" Serve.decoder .required .nil)
    fun (ruleId, priority, clauses, serve, ()) => { ruleId, priority, clauses, serve }

/-- Writes a rule. -/
def ServingRule.encode (r : ServingRule) : Json := .ofFields [
  ("ruleId", r.ruleId.map .string), ("priority", some (.ofInt r.priority.toInt)),
  ("clauses", some (.array (r.clauses.map (·.encode)))), ("serve", some r.serve.encode)]

/-- Reads a target on a list. -/
def TargetRef.decoder : Decoder TargetRef :=
  record "struct TargetRef"
    (.cons "identifier" string .required <| .cons "name" (option string) (.default none) .nil)
    fun (identifier, name, ()) => { identifier, name }

/-- Writes a target on a list. -/
def TargetRef.encode (r : TargetRef) : Json := .ofFields [
  ("identifier", some (.string r.identifier)), ("name", r.name.map .string)]

/-- Reads an entry of a target map. -/
def VariationMap.decoder : Decoder VariationMap :=
  record "struct VariationMap"
    (.cons "variation" string .required <|
      .cons "targets" (list TargetRef.decoder) (.default []) <|
      .cons "targetSegments" (list string) (.default []) .nil)
    fun (variation, targets, targetSegments, ()) => { variation, targets, targetSegments }

/-- Writes an entry of a target map. -/
def VariationMap.encode (m : VariationMap) : Json := .ofFields [
  ("variation", some (.string m.variation)),
  ("targets", some (.array (m.targets.map (·.encode)))),
  ("targetSegments", some (.ofStrings m.targetSegments))]

/-- Reads a prerequisite. -/
def Prerequisite.decoder : Decoder Prerequisite :=
  record "struct Prerequisite"
    (.cons "feature" string .required <| .cons "variations" (list string) (.default []) .nil)
    fun (feature, variations, ()) => { feature, variations }

/-- Writes a prerequisite. -/
def Prerequisite.encode (p : Prerequisite) : Json := .ofFields [
  ("feature", some (.string p.feature)), ("variations", some (.ofStrings p.variations))]

/-- Reads a flag. -/
def Flag.decoder : Decoder Flag :=
  record "struct FeatureConfig"
    (.cons "feature" string .required <|
      .cons "kind" FlagKind.decoder .required <|
      .cons "state" FlagState.decoder .required <|
      .cons "offVariation" string .required <|
      .cons "defaultServe" Serve.decoder .required <|
      .cons "rules" (list ServingRule.decoder) (.default []) <|
      .cons "variationToTargetMap" (list VariationMap.decoder) (.default []) <|
      .cons "prerequisites" (list Prerequisite.decoder) (.default []) <|
      .cons "variations" (list Variation.decoder) (.default []) <|
      .cons "version" int64 (.default 0) .nil)
    fun (feature, kind, state, offVariation, defaultServe, rules, variationToTargetMap,
        prerequisites, variations, version, ()) =>
      { feature, kind, state, offVariation, defaultServe, rules, variationToTargetMap,
        prerequisites, variations, version }

/-- Writes a flag. -/
def Flag.encode (f : Flag) : Json := .ofFields [
  ("feature", some (.string f.feature)), ("kind", some f.kind.encode),
  ("state", some f.state.encode), ("offVariation", some (.string f.offVariation)),
  ("defaultServe", some f.defaultServe.encode),
  ("rules", some (.array (f.rules.map (·.encode)))),
  ("variationToTargetMap", some (.array (f.variationToTargetMap.map (·.encode)))),
  ("prerequisites", some (.array (f.prerequisites.map (·.encode)))),
  ("variations", some (.array (f.variations.map (·.encode)))),
  ("version", some (.ofInt f.version.toInt))]

/-- Reads a segment. -/
def Segment.decoder : Decoder Segment :=
  record "struct Segment"
    (.cons "identifier" string .required <|
      .cons "name" (option string) (.default none) <|
      .cons "included" (list TargetRef.decoder) (.default []) <|
      .cons "excluded" (list TargetRef.decoder) (.default []) <|
      .cons "rules" (list Clause.decoder) (.default []) <|
      .cons "version" int64 (.default 0) .nil)
    fun (identifier, name, included, excluded, rules, version, ()) =>
      { identifier, name, included, excluded, rules, version }

/-- Writes a segment. -/
def Segment.encode (s : Segment) : Json := .ofFields [
  ("identifier", some (.string s.identifier)), ("name", s.name.map .string),
  ("included", some (.array (s.included.map (·.encode)))),
  ("excluded", some (.array (s.excluded.map (·.encode)))),
  ("rules", some (.array (s.rules.map (·.encode)))),
  ("version", some (.ofInt s.version.toInt))]

end FlagReplica
