import FlagReplica.Evaluation.Error
/-!
# Traces

The checkpoints that an evaluation passes, in order, and how each turned out. A trace annotates a
result: what is recorded along the way never decides anything.
-/

namespace FlagReplica

/-- A question that evaluation settles on its way. -/
inductive Checkpoint
  | flagExists
  | prerequisitesSatisfied
  | flagEnabled
  | targetRulePresent
  | targetRuleMatched
  | groupRulePresent
  | groupRuleMatched
  | defaultServeUsed
  | distributionUsed
  deriving DecidableEq, Repr, Inhabited

namespace Checkpoint

/-- All checkpoints, with their names, in the order evaluation meets them. -/
def names : List (String × Checkpoint) := [
  ("FLAG_EXISTS", .flagExists), ("PREREQUISITES_SATISFIED", .prerequisitesSatisfied),
  ("FLAG_ENABLED", .flagEnabled), ("TARGET_RULE_PRESENT", .targetRulePresent),
  ("TARGET_RULE_MATCHED", .targetRuleMatched), ("GROUP_RULE_PRESENT", .groupRulePresent),
  ("GROUP_RULE_MATCHED", .groupRuleMatched), ("DEFAULT_SERVE_USED", .defaultServeUsed),
  ("DISTRIBUTION_USED", .distributionUsed)]

/-- The checkpoint of a name. -/
def ofName? (name : String) : Option Checkpoint := names.lookup name

/-- The name of a checkpoint. -/
def name : Checkpoint → String
  | .flagExists => "FLAG_EXISTS"
  | .prerequisitesSatisfied => "PREREQUISITES_SATISFIED"
  | .flagEnabled => "FLAG_ENABLED"
  | .targetRulePresent => "TARGET_RULE_PRESENT"
  | .targetRuleMatched => "TARGET_RULE_MATCHED"
  | .groupRulePresent => "GROUP_RULE_PRESENT"
  | .groupRuleMatched => "GROUP_RULE_MATCHED"
  | .defaultServeUsed => "DEFAULT_SERVE_USED"
  | .distributionUsed => "DISTRIBUTION_USED"

end Checkpoint

/-- A checkpoint and how it turned out. -/
structure TraceStep where
  checkpoint : Checkpoint
  passed : Bool
  deriving DecidableEq, Repr, Inhabited

/-- What an evaluation went through, and what came of it. -/
structure Trace where
  flag : String
  target : String
  steps : List TraceStep
  variation : Option Variation
  error : Option EvaluationError
  deriving DecidableEq, Repr, Inhabited

/-- How a checkpoint turned out the first time it was met, if it was. -/
def Trace.step? (t : Trace) (c : Checkpoint) : Option Bool :=
  (t.steps.find? (·.checkpoint = c)).map (·.passed)

end FlagReplica
