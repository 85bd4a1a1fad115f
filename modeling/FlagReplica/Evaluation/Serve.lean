import FlagReplica.Evaluation.Membership
import FlagReplica.Evaluation.Rollout
import FlagReplica.Evaluation.Trace
/-!
# What a flag serves by itself

What a flag serves without regard to the flags it depends on: the off variation if it is off, and
otherwise what the first of three tiers yields, its target map, the rule that matches with the least
priority, the default. A rule that matches but yields nothing leaves the choice to the default, not
to the next rule. A target without an identifier is on no list and meets no rule, so it goes to the
default at once.

The walk tells a `Watch` of the checkpoints it passes. What the watch does is its own affair: the
walk asks it nothing.
-/

namespace FlagReplica

variable {m : Type → Type} [Monad m]

/-- What is told of each checkpoint and how it turned out. -/
abbrev Watch (m : Type → Type) := Checkpoint → Bool → m Unit

/-- The watch that does not care. -/
def Watch.none : Watch m := fun _ _ => pure ()

/-- What is served to the target, if anything. -/
def Serve.resolve (h : Host m) (watch : Watch m) (t : Target) : Serve → m (Option String)
  | .variation id => pure (some id)
  | .distribution d => do
    watch .distributionUsed true
    d.report h t

namespace Flag

/-- The first entry of the target map that is for the target. -/
def findMapped (h : Host m) (budget : Budget) (t : Target) :
    List VariationMap → m (Option String)
  | [] => pure none
  | entry :: entries => do
    if isListed entry.targets t then pure (some entry.variation)
    else if ← isMember h budget t entry.targetSegments then pure (some entry.variation)
    else findMapped h budget t entries

/-- The first rule whose clauses all hold. -/
def findMatching (h : Host m) (budget : Budget) (t : Target) :
    List ServingRule → m (Option ServingRule)
  | [] => pure none
  | rule :: rules => do
    if ← rule.clauses.allM (·.holds h budget t) then pure (some rule)
    else findMatching h budget t rules

/-- The rules by ascending priority. Rules of one priority keep their order. -/
def rulesInOrder (f : Flag) : List ServingRule :=
  f.rules.mergeSort fun a b => a.priority ≤ b.priority

/-- What the default yields. -/
def serveDefault (h : Host m) (watch : Watch m) (t : Target) (f : Flag) : m (Option String) := do
  watch .defaultServeUsed true
  f.defaultServe.resolve h watch t

/-- What the rules yield, or else the default. -/
def serveByRules (h : Host m) (budget : Budget) (watch : Watch m) (t : Target) (f : Flag) :
    m (Option String) := do
  let rule ← findMatching h budget t f.rulesInOrder
  watch .groupRulePresent !f.rules.isEmpty
  if !f.rules.isEmpty then watch .groupRuleMatched rule.isSome
  match rule with
  | none => f.serveDefault h watch t
  | some rule =>
    match ← rule.serve.resolve h watch t with
    | some id => pure (some id)
    | none => f.serveDefault h watch t

/-- What the flag serves when it is on. -/
def serveOn (h : Host m) (budget : Budget) (watch : Watch m) (t : Target) (f : Flag) :
    m (Option String) :=
  if t.identifier.isEmpty then f.serveDefault h watch t
  else do
    let mapped ← findMapped h budget t f.variationToTargetMap
    watch .targetRulePresent !f.variationToTargetMap.isEmpty
    if !f.variationToTargetMap.isEmpty then watch .targetRuleMatched mapped.isSome
    match mapped with
    | some id => pure (some id)
    | none => f.serveByRules h budget watch t

/-- What the flag serves by itself. -/
def serveByState (h : Host m) (budget : Budget) (watch : Watch m) (t : Target) (f : Flag) :
    m (Option String) := do
  watch .flagEnabled (f.state = .on)
  if f.state = .on then f.serveOn h budget watch t else pure (some f.offVariation)

end Flag

end FlagReplica
