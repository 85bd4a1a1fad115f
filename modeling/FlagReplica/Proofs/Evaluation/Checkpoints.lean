import FlagReplica.Proofs.Evaluation.Precedence
import FlagReplica.Proofs.Evaluation.Relevance
/-!
# What a trace tells

A trace lists the checkpoints that an evaluation passed. `Records` says which these are without
going through an evaluation, by what holds of the flag and of the target: each tier tells whether
there is anything to it and whether it decided, and the first that decided is the last that tells
anything. `explain_iff_records` is the proof that an explanation has just these steps. So a trace
can be trusted for which tier decided, and no checkpoint is in it twice, but for the one that tells
of a distribution: it is there once more if a rule matched whose distribution came to nothing.

The steps are recorded all over the walk. `Traces` says what an action comes to and which steps it
records, and goes on over what is done one after the other. What is asked on the way, whether
prerequisites are met, who is on a list, which rule matches, records nothing (`Traces.of_alike`).
-/

namespace FlagReplica

/-- What is recorded when something is served. -/
def Serve.steps : Serve → List TraceStep
  | .variation _ => []
  | .distribution _ => [⟨.distributionUsed, true⟩]

/-- What is recorded when it comes to the default. -/
def Flag.defaultSteps (f : Flag) : List TraceStep :=
  ⟨.defaultServeUsed, true⟩ :: f.defaultServe.steps

namespace Snapshot

variable (s : Snapshot) (t : Target)

/-! ## Steps -/

/-- What is recorded when it comes to the rules. -/
inductive RuleSteps (f : Flag) : List TraceStep → Prop
  /-- There are none. -/
  | absent (hrules : f.rules = []) : RuleSteps f (⟨.groupRulePresent, false⟩ :: f.defaultSteps)
  /-- None matches. -/
  | unmatched (hrules : f.rules ≠ []) (hnone : ∀ rule ∈ f.rules, ¬ s.Matches t rule) :
      RuleSteps f (⟨.groupRulePresent, true⟩ :: ⟨.groupRuleMatched, false⟩ :: f.defaultSteps)
  /-- What leads of those that match yields something. -/
  | decided {rule : ServingRule} (hrule : Flag.Leads (s.Matches t) f.rules rule)
      (hyields : rule.serve.yields t ≠ none) :
      RuleSteps f (⟨.groupRulePresent, true⟩ :: ⟨.groupRuleMatched, true⟩ :: rule.serve.steps)
  /-- It yields nothing, which leaves the choice to the default. -/
  | undecided {rule : ServingRule} (hrule : Flag.Leads (s.Matches t) f.rules rule)
      (hyields : rule.serve.yields t = none) :
      RuleSteps f (⟨.groupRulePresent, true⟩ :: ⟨.groupRuleMatched, true⟩ ::
        (rule.serve.steps ++ f.defaultSteps))

/-- What is recorded of a flag that is on. -/
inductive OnSteps (f : Flag) : List TraceStep → Prop
  /-- The target has no identifier. -/
  | unnamed (hid : t.identifier = "") : OnSteps f f.defaultSteps
  /-- The target map is empty. -/
  | absent {steps : List TraceStep} (hid : t.identifier ≠ "") (hmap : f.variationToTargetMap = [])
      (hsteps : s.RuleSteps t f steps) : OnSteps f (⟨.targetRulePresent, false⟩ :: steps)
  /-- It has an entry for the target. -/
  | mapped {entry : VariationMap} (hid : t.identifier ≠ "")
      (hentry : entry ∈ f.variationToTargetMap) (hfor : s.IsFor t entry) :
      OnSteps f [⟨.targetRulePresent, true⟩, ⟨.targetRuleMatched, true⟩]
  /-- It has entries, but none for the target. -/
  | unmapped {steps : List TraceStep} (hid : t.identifier ≠ "") (hmap : f.variationToTargetMap ≠ [])
      (hnone : ∀ entry ∈ f.variationToTargetMap, ¬ s.IsFor t entry)
      (hsteps : s.RuleSteps t f steps) :
      OnSteps f (⟨.targetRulePresent, true⟩ :: ⟨.targetRuleMatched, false⟩ :: steps)

/-- What is recorded of what a flag serves by itself. -/
inductive StateSteps (f : Flag) : List TraceStep → Prop
  | off (hstate : f.state = .off) : StateSteps f [⟨.flagEnabled, false⟩]
  | on {steps : List TraceStep} (hstate : f.state = .on) (hsteps : s.OnSteps t f steps) :
      StateSteps f (⟨.flagEnabled, true⟩ :: steps)

/-- What is recorded of a flag. -/
inductive FlagSteps (f : Flag) : List TraceStep → Prop
  /-- It has no prerequisites. -/
  | free {steps : List TraceStep} (hnone : f.prerequisites = [])
      (hsteps : s.StateSteps t f steps) : FlagSteps f steps
  /-- They are met. -/
  | met {steps : List TraceStep} (hsome : f.prerequisites ≠ [])
      (hmet : s.Dependable s.budget t f.feature) (hsteps : s.StateSteps t f steps) :
      FlagSteps f (⟨.prerequisitesSatisfied, true⟩ :: steps)
  /-- They are not. -/
  | unmet (hsome : f.prerequisites ≠ []) (hunmet : ¬ s.Dependable s.budget t f.feature) :
      FlagSteps f [⟨.prerequisitesSatisfied, false⟩]

/-- What is recorded of an evaluation. -/
inductive Records (flagId : String) (expected : Option FlagKind) : List TraceStep → Prop
  | absent (hflag : s.flag? flagId = none) : Records flagId expected [⟨.flagExists, false⟩]
  /-- The flag is of another kind than was asked for. -/
  | otherKind {f : Flag} {kind : FlagKind} (hflag : s.flag? flagId = some f)
      (hkind : expected = some kind) (hne : f.kind ≠ kind) :
      Records flagId expected [⟨.flagExists, true⟩]
  | found {f : Flag} {steps : List TraceStep} (hflag : s.flag? flagId = some f)
      (hkind : ∀ kind, expected = some kind → f.kind = kind) (hsteps : s.FlagSteps t f steps) :
      Records flagId expected (⟨.flagExists, true⟩ :: steps)

end Snapshot

/-! ## What an action records -/

/-- The action comes to this, and records these steps after those that are kept. -/
def Traces {α : Type} (a : StateT (List TraceStep) Id α) (x : α) (steps : List TraceStep) : Prop :=
  ∀ kept, (a.run kept).run = (x, steps.reverse ++ kept)

namespace Traces

variable {α β : Type} {a : StateT (List TraceStep) Id α} {x : α} {steps steps' : List TraceStep}

theorem pure (x : α) : Traces (Pure.pure x) x [] := fun _ => rfl

/-- **What is done one after the other** records its steps one after the other. -/
theorem bind {f : α → StateT (List TraceStep) Id β} {y : β} (ha : Traces a x steps)
    (hf : Traces (f x) y steps') : Traces (a >>= f) y (steps ++ steps') := by
  intro kept
  have hrun : a.run kept = (x, steps.reverse ++ kept) := ha kept
  rw [StateT.run_bind, hrun, List.reverse_append, List.append_assoc]
  exact hf _

theorem map (f : α → β) (h : Traces a x steps) : Traces (f <$> a) (f x) steps := by
  intro kept
  have hrun : a.run kept = (x, steps.reverse ++ kept) := h kept
  rw [StateT.run_map, hrun]
  rfl

theorem recorder (c : Checkpoint) (passed : Bool) :
    Traces (Evaluation.recorder c passed) () [⟨c, passed⟩] := fun _ => rfl

/-- What is asked without being watched records nothing. -/
theorem of_alike {p : α → Prop} {b : Id α} (h : (Pairing.lifted (List TraceStep)).Alike p a b) :
    Traces a b.run [] := fun kept => (h kept).1

end Traces

namespace Snapshot

variable {s : Snapshot} {t : Target} {f : Flag} {steps : List TraceStep}

theorem traces_report (d : Distribution) :
    Traces (d.report (s.host.keep _) t) (d.resolve? t) [] := by
  have hvalue : (d.report s.host t).run = d.resolve? t := run_resolve_serve (.distribution d)
  rw [← hvalue]
  exact .of_alike (Pairing.same_report s.host.places_lifted (.refl _ t) trivial)

theorem traces_findMapped (entries : List VariationMap) :
    Traces (Flag.findMapped (s.host.keep _) s.budget t entries)
      ((entries.find? (s.entryFits t)).map (·.variation)) [] := by
  rw [← run_findMapped]
  exact .of_alike (Pairing.same_findMapped s.host.places_lifted (.refl _ t) s.budget
    fun _ _ _ _ => trivial)

theorem traces_findMatching (rules : List ServingRule) :
    Traces (Flag.findMatching (s.host.keep _) s.budget t rules)
      (rules.find? (s.ruleFits t)) [] := by
  rw [← run_findMatching]
  exact .of_alike (Pairing.alike_findMatching s.host.places_lifted (.refl _ t) s.budget
    fun _ _ _ _ => trivial)

theorem traces_prerequisitesMet (f : Flag) :
    Traces (f.prerequisitesMet (s.host.keep _) s.budget t)
      (f.prerequisitesMet s.host s.budget t).run [] :=
  .of_alike (Pairing.same_prerequisitesMetWithin s.host.places_lifted (.refl _ t) s.budget
    (fun _ _ => trivial) _ _)

/-! ## What is found -/

theorem find?_ruleFits_eq_some_iff {rule : ServingRule} :
    f.rulesInOrder.find? (s.ruleFits t) = some rule ↔
      Flag.Leads (s.Matches t) f.rules rule := by
  rw [Flag.find?_rulesInOrder_iff, Flag.Leads.congr ruleFits_iff]

theorem find?_ruleFits_eq_none_iff :
    f.rulesInOrder.find? (s.ruleFits t) = none ↔ ∀ rule ∈ f.rules, ¬ s.Matches t rule := by
  rw [List.find?_eq_none]
  refine forall_congr' fun rule => ?_
  rw [Flag.mem_rulesInOrder, ruleFits_iff]

theorem find?_entryFits_eq_none_iff (hid : t.identifier ≠ "") {entries : List VariationMap} :
    entries.find? (s.entryFits t) = none ↔ ∀ entry ∈ entries, ¬ s.IsFor t entry := by
  rw [List.find?_eq_none]
  exact forall₂_congr fun entry _ => not_congr (entryFits_iff hid entry)

/-- A flag one of whose rules leads has rules. -/
theorem rules_ne_nil_of_leads {rule : ServingRule}
    (h : Flag.Leads (s.Matches t) f.rules rule) : f.rules ≠ [] := by
  obtain ⟨i, hi, -⟩ := h
  exact List.ne_nil_of_mem (List.mem_of_getElem? hi)

/-! ## The tiers -/

theorem traces_resolve_serve (serve : Serve) :
    Traces (serve.resolve (s.host.keep _) Evaluation.recorder t) (serve.yields t) serve.steps := by
  cases serve with
  | variation id => exact .pure _
  | distribution d => exact (Traces.recorder _ _).bind (traces_report d)

theorem traces_serveDefault (f : Flag) :
    Traces (f.serveDefault (s.host.keep _) Evaluation.recorder t) (f.defaultServe.yields t)
      f.defaultSteps :=
  (Traces.recorder _ _).bind (traces_resolve_serve _)

/-- **The tier of rules** records what is to be recorded of it. -/
theorem RuleSteps.traces (h : s.RuleSteps t f steps) :
    ∃ served, Traces (f.serveByRules (s.host.keep _) s.budget Evaluation.recorder t) served
      steps := by
  have hfound := traces_findMatching (s := s) (t := t) f.rulesInOrder
  unfold Flag.serveByRules
  cases h with
  | absent hrules =>
    have hnone : ∀ rule ∈ f.rules, ¬ s.Matches t rule := by
      rw [hrules]
      exact List.forall_mem_nil _
    rw [find?_ruleFits_eq_none_iff.mpr hnone] at hfound
    rw [hrules]
    exact ⟨_, hfound.bind ((Traces.recorder _ _).bind (traces_serveDefault f))⟩
  | unmatched hrules hnone =>
    rw [find?_ruleFits_eq_none_iff.mpr hnone] at hfound
    rw [List.isEmpty_eq_false_iff.mpr hrules]
    exact ⟨_, hfound.bind ((Traces.recorder _ _).bind
      ((Traces.recorder _ _).bind (traces_serveDefault f)))⟩
  | @decided rule hrule hyields =>
    obtain ⟨id, hid⟩ := Option.ne_none_iff_exists'.mp hyields
    have hserve := traces_resolve_serve (s := s) (t := t) rule.serve
    rw [find?_ruleFits_eq_some_iff.mpr hrule] at hfound
    rw [hid] at hserve
    rw [List.isEmpty_eq_false_iff.mpr (rules_ne_nil_of_leads hrule)]
    refine ⟨some id, ?_⟩
    rw [← List.append_nil rule.serve.steps]
    exact hfound.bind ((Traces.recorder _ _).bind ((Traces.recorder _ _).bind
      (hserve.bind (.pure (some id)))))
  | @undecided rule hrule hyields =>
    have hserve := traces_resolve_serve (s := s) (t := t) rule.serve
    rw [find?_ruleFits_eq_some_iff.mpr hrule] at hfound
    rw [hyields] at hserve
    rw [List.isEmpty_eq_false_iff.mpr (rules_ne_nil_of_leads hrule)]
    exact ⟨_, hfound.bind ((Traces.recorder _ _).bind ((Traces.recorder _ _).bind
      (hserve.bind (traces_serveDefault f))))⟩

/-- **The tiers of a flag that is on** record what is to be recorded of them. -/
theorem OnSteps.traces (h : s.OnSteps t f steps) :
    ∃ served, Traces (f.serveOn (s.host.keep _) s.budget Evaluation.recorder t) served steps := by
  have hfound := traces_findMapped (s := s) (t := t) f.variationToTargetMap
  have hnamed : t.identifier ≠ "" → ¬ t.identifier.isEmpty :=
    fun hid hempty => hid (String.isEmpty_iff.mp hempty)
  unfold Flag.serveOn
  cases h with
  | unnamed hid =>
    rw [if_pos (String.isEmpty_iff.mpr hid)]
    exact ⟨_, traces_serveDefault f⟩
  | absent hid hmap hsteps =>
    obtain ⟨served, hrules⟩ := hsteps.traces
    rw [if_neg (hnamed hid)]
    rw [hmap] at hfound ⊢
    exact ⟨served, hfound.bind ((Traces.recorder _ _).bind hrules)⟩
  | @mapped entry hid hentry hfor =>
    have hfits : s.entryFits t entry = true := (entryFits_iff hid entry).mpr hfor
    obtain ⟨found, hfind⟩ := Option.isSome_iff_exists.mp
      (List.find?_isSome.mpr ⟨entry, hentry, hfits⟩)
    rw [hfind] at hfound
    rw [if_neg (hnamed hid), List.isEmpty_eq_false_iff.mpr (List.ne_nil_of_mem hentry)]
    exact ⟨some found.variation, hfound.bind ((Traces.recorder _ _).bind
      ((Traces.recorder _ _).bind (.pure _)))⟩
  | unmapped hid hmap hnone hsteps =>
    obtain ⟨served, hrules⟩ := hsteps.traces
    rw [(find?_entryFits_eq_none_iff hid).mpr hnone] at hfound
    rw [if_neg (hnamed hid), List.isEmpty_eq_false_iff.mpr hmap]
    exact ⟨served, hfound.bind ((Traces.recorder _ _).bind ((Traces.recorder _ _).bind hrules))⟩

theorem StateSteps.traces (h : s.StateSteps t f steps) :
    ∃ served, Traces (f.serveByState (s.host.keep _) s.budget Evaluation.recorder t) served
      steps := by
  unfold Flag.serveByState
  cases h with
  | off hstate =>
    rw [hstate]
    exact ⟨_, (Traces.recorder _ _).bind (.pure _)⟩
  | on hstate hsteps =>
    obtain ⟨served, hon⟩ := hsteps.traces
    rw [hstate]
    exact ⟨served, (Traces.recorder _ _).bind hon⟩

/-- **A flag** records what is to be recorded of it. -/
theorem FlagSteps.traces (hf : s.flag? f.feature = some f) (h : s.FlagSteps t f steps) :
    ∃ served, Traces (f.resolve (s.host.keep _) s.budget Evaluation.recorder t) served steps := by
  have hasked := traces_prerequisitesMet (s := s) (t := t) f
  have hmet := prerequisitesMet_iff_dependable (t := t) hf s.length_le_budget
  unfold Flag.resolve
  cases h with
  | free hnone hsteps =>
    obtain ⟨served, hstate⟩ := hsteps.traces
    rw [hnone]
    exact ⟨served, hstate⟩
  | met hsome hdependable hsteps =>
    obtain ⟨served, hstate⟩ := hsteps.traces
    rw [hmet.mpr hdependable] at hasked
    rw [List.isEmpty_eq_false_iff.mpr hsome]
    exact ⟨served, hasked.bind ((Traces.recorder _ _).bind hstate)⟩
  | unmet hsome hunmet =>
    rw [Bool.eq_false_iff.mpr fun h => hunmet (hmet.mp h)] at hasked
    rw [List.isEmpty_eq_false_iff.mpr hsome]
    exact ⟨_, hasked.bind ((Traces.recorder _ _).bind (.pure _))⟩

variable {flagId : String} {expected : Option FlagKind}

/-- **An evaluation** records what is to be recorded of it. -/
theorem Records.traces (h : s.Records t flagId expected steps) :
    ∃ result, Traces
      (Evaluation.walk (s.host.keep _) s.budget Evaluation.recorder flagId t expected)
      result steps := by
  have hlook : Traces ((s.host.keep (List TraceStep)).flag? flagId) (s.flag? flagId) [] :=
    fun _ => rfl
  unfold Evaluation.walk
  cases h with
  | absent hflag =>
    rw [hflag] at hlook
    exact ⟨_, hlook.bind ((Traces.recorder _ _).bind (.pure _))⟩
  | @otherKind f kind hflag hkind hne =>
    rw [hflag] at hlook
    refine ⟨.error (.kindMismatch kind f.kind), hlook.bind ((Traces.recorder _ _).bind ?_)⟩
    rw [hkind, kindFits_of_ne hne]
    exact .pure _
  | @found f steps hflag hkind hsteps =>
    obtain ⟨served, hserve⟩ := hsteps.traces (feature_of_flag? hflag ▸ hflag)
    rw [hflag] at hlook
    refine ⟨(f.variationOf served).map fun v => (f, v), hlook.bind ((Traces.recorder _ _).bind ?_)⟩
    rw [kindFits_eq_ok_iff.mpr hkind]
    exact (hserve.map _).map _

/-! ## Something is recorded -/

theorem exists_ruleSteps (f : Flag) : ∃ steps, s.RuleSteps t f steps := by
  by_cases hrules : f.rules = []
  · exact ⟨_, .absent hrules⟩
  · cases hfind : f.rulesInOrder.find? (s.ruleFits t) with
    | none =>
      exact ⟨_, .unmatched hrules (find?_ruleFits_eq_none_iff.mp hfind)⟩
    | some rule =>
      have hrule := find?_ruleFits_eq_some_iff.mp hfind
      by_cases hyields : rule.serve.yields t = none
      · exact ⟨_, .undecided hrule hyields⟩
      · exact ⟨_, .decided hrule hyields⟩

theorem exists_onSteps (f : Flag) : ∃ steps, s.OnSteps t f steps := by
  obtain ⟨steps, hsteps⟩ := exists_ruleSteps (s := s) (t := t) f
  by_cases hid : t.identifier = ""
  · exact ⟨_, .unnamed hid⟩
  · by_cases hmap : f.variationToTargetMap = []
    · exact ⟨_, .absent hid hmap hsteps⟩
    · by_cases hmapped : ∃ entry ∈ f.variationToTargetMap, s.IsFor t entry
      · obtain ⟨entry, hentry, hfor⟩ := hmapped
        exact ⟨_, .mapped hid hentry hfor⟩
      · have hnone : ∀ entry ∈ f.variationToTargetMap, ¬ s.IsFor t entry :=
          fun entry hentry hfor => hmapped ⟨entry, hentry, hfor⟩
        exact ⟨_, .unmapped hid hmap hnone hsteps⟩

theorem exists_stateSteps (f : Flag) : ∃ steps, s.StateSteps t f steps := by
  obtain ⟨steps, hsteps⟩ := exists_onSteps (s := s) (t := t) f
  cases hstate : f.state with
  | off => exact ⟨_, .off hstate⟩
  | on => exact ⟨_, .on hstate hsteps⟩

theorem exists_flagSteps (f : Flag) : ∃ steps, s.FlagSteps t f steps := by
  obtain ⟨steps, hsteps⟩ := exists_stateSteps (s := s) (t := t) f
  by_cases hnone : f.prerequisites = []
  · exact ⟨_, .free hnone hsteps⟩
  · by_cases hmet : s.Dependable s.budget t f.feature
    · exact ⟨_, .met hnone hmet hsteps⟩
    · exact ⟨_, .unmet hnone hmet⟩

theorem exists_records (s : Snapshot) (t : Target) (flagId : String) (expected : Option FlagKind) :
    ∃ steps, s.Records t flagId expected steps := by
  cases hflag : s.flag? flagId with
  | none => exact ⟨_, .absent hflag⟩
  | some f =>
    by_cases hkind : ∀ kind, expected = some kind → f.kind = kind
    · obtain ⟨steps, hsteps⟩ := exists_flagSteps (s := s) (t := t) f
      exact ⟨_, .found hflag hkind hsteps⟩
    · obtain ⟨kind, hkind⟩ := not_forall.mp hkind
      obtain ⟨rfl, hne⟩ := Classical.not_imp.mp hkind
      exact ⟨_, .otherKind hflag rfl hne⟩

/-- What is to be recorded is what the trace lists. -/
theorem Records.explain_eq (h : s.Records t flagId expected steps) :
    (Evaluation.explain s.host s.budget flagId t expected).run.2.steps = steps := by
  obtain ⟨result, htraces⟩ := h.traces
  have hrun : ((Evaluation.walk (s.host.keep _) s.budget Evaluation.recorder flagId t
      expected).run []).run = (result, steps.reverse ++ []) := htraces []
  have hkept : ((Evaluation.walk (s.host.keep _) s.budget Evaluation.recorder flagId t
      expected).run []).run.2.reverse = steps := by
    rw [hrun, List.append_nil, List.reverse_reverse]
  rw [Evaluation.explain_eq_walk]
  exact hkept

/-! ## The order of checkpoints -/

/-- The steps are of these checkpoints and in this order, though some may be left out. -/
def Passes (steps : List TraceStep) (order : List Checkpoint) : Prop :=
  (steps.map (·.checkpoint)).Sublist order

theorem passes_steps (serve : Serve) : Passes serve.steps [.distributionUsed] := by
  cases serve with
  | variation id => exact List.nil_sublist _
  | distribution d => exact .refl _

theorem passes_defaultSteps (f : Flag) :
    Passes f.defaultSteps [.defaultServeUsed, .distributionUsed] :=
  (passes_steps f.defaultServe).cons_cons _

/-- The checkpoints of the rules, in the order in which they are met. -/
def ruleCheckpoints : List Checkpoint :=
  [.groupRulePresent, .groupRuleMatched, .distributionUsed, .defaultServeUsed, .distributionUsed]

theorem RuleSteps.passes (h : s.RuleSteps t f steps) : Passes steps ruleCheckpoints := by
  have hdefault := passes_defaultSteps f
  cases h with
  | absent => exact .cons_cons _ (.cons _ (.cons _ hdefault))
  | unmatched => exact .cons_cons _ (.cons_cons _ (.cons _ hdefault))
  | @decided rule =>
    have hserve := (passes_steps rule.serve).trans
      (List.sublist_append_left _ [.defaultServeUsed, .distributionUsed])
    exact .cons_cons _ (.cons_cons _ hserve)
  | @undecided rule =>
    have hserve := (passes_steps rule.serve).append hdefault
    rw [← List.map_append] at hserve
    exact .cons_cons _ (.cons_cons _ hserve)

theorem OnSteps.passes (h : s.OnSteps t f steps) :
    Passes steps (.targetRulePresent :: .targetRuleMatched :: ruleCheckpoints) := by
  cases h with
  | unnamed =>
    exact .cons _ (.cons _ (.cons _ (.cons _ (.cons _ (passes_defaultSteps f)))))
  | absent _ _ hsteps => exact .cons_cons _ (.cons _ hsteps.passes)
  | mapped => exact .cons_cons _ (.cons_cons _ (List.nil_sublist _))
  | unmapped _ _ _ hsteps => exact .cons_cons _ (.cons_cons _ hsteps.passes)

theorem StateSteps.passes (h : s.StateSteps t f steps) :
    Passes steps (.flagEnabled :: .targetRulePresent :: .targetRuleMatched :: ruleCheckpoints) := by
  cases h with
  | off => exact .cons_cons _ (List.nil_sublist _)
  | on _ hsteps => exact .cons_cons _ hsteps.passes

/-- All checkpoints in the order in which an evaluation meets them. It may come to a distribution
twice. -/
def checkpoints : List Checkpoint :=
  .flagExists :: .prerequisitesSatisfied :: .flagEnabled :: .targetRulePresent ::
    .targetRuleMatched :: ruleCheckpoints

/-- **Checkpoints are passed in one order.** -/
theorem Records.passes (h : s.Records t flagId expected steps) : Passes steps checkpoints := by
  cases h with
  | absent | otherKind => exact .cons_cons _ (List.nil_sublist _)
  | found _ _ hsteps =>
    refine .cons_cons _ ?_
    cases hsteps with
    | free _ hsteps => exact .cons _ hsteps.passes
    | met _ _ hsteps => exact .cons_cons _ hsteps.passes
    | unmet => exact .cons_cons _ (List.nil_sublist _)

/-- **A trace tells which tier decided.** The steps of an explanation are what `Records` says, which
is one thing. They come in the order of the checkpoints, and no checkpoint is there twice, but for
that of a distribution, which is there at most twice. -/
theorem explain_iff_records (s : Snapshot) (t : Target) (flagId : String)
    (expected : Option FlagKind) :
    let recorded := (Evaluation.explain s.host s.budget flagId t expected).run.2.steps
    (∀ steps, recorded = steps ↔ s.Records t flagId expected steps) ∧
      Passes recorded checkpoints ∧
      ∀ c, (recorded.map (·.checkpoint)).count c ≤ if c = .distributionUsed then 2 else 1 := by
  intro recorded
  obtain ⟨steps, hsteps⟩ := exists_records s t flagId expected
  have hrecorded : recorded = steps := hsteps.explain_eq
  have hpasses : Passes recorded checkpoints := by
    rw [hrecorded]
    exact hsteps.passes
  have hrecords (steps : List TraceStep) :
      recorded = steps ↔ s.Records t flagId expected steps := by
    refine ⟨?_, Records.explain_eq⟩
    rintro rfl
    rw [hrecorded]
    exact hsteps
  refine ⟨hrecords, hpasses, fun c => (hpasses.count_le c).trans ?_⟩
  cases c <;> decide

/-- A rule that matches may have nothing to deal, which leaves the choice to the default. If that
deals too, a distribution is told of twice. -/
example :
    let lots : Flag := { plainFlag "lots" [] with
      rules := [⟨none, 0, [], .distribution ⟨"identifier", []⟩⟩]
      defaultServe := .distribution ⟨"identifier", [⟨"yes", 100⟩]⟩ }
    let s : Snapshot := ⟨[lots], []⟩
    (Evaluation.explain s.host s.budget "lots" (.ofIdentifier "t") none).run.2.steps =
      [⟨.flagExists, true⟩, ⟨.flagEnabled, true⟩, ⟨.targetRulePresent, false⟩,
        ⟨.groupRulePresent, true⟩, ⟨.groupRuleMatched, true⟩, ⟨.distributionUsed, true⟩,
        ⟨.defaultServeUsed, true⟩, ⟨.distributionUsed, true⟩] := by
  decide +kernel

end Snapshot

end FlagReplica
