import FlagReplica.Proofs.Evaluation.Membership
import FlagReplica.Proofs.Evaluation.RuleOrder
/-!
# Which variation is served

Evaluation goes through its tiers one after the other, sorts the rules by priority and takes the
first that matches. Here is what it comes to, said without going through anything: `Serves` says
which tier decides, by what holds of the flag and of the target, and in the tier of rules by the
matching rule that comes least in priority and then in position. `Decides` adds what becomes of the
variation that is served. `evaluate_iff_decides` is the proof that evaluation comes to just that,
and that rules may be listed in any order that leaves those of one priority in theirs.
-/

namespace FlagReplica

/-- The first thing of a list that has a property. -/
def FirstOf {α : Type} (p : α → Prop) (xs : List α) (x : α) : Prop :=
  ∃ before after, xs = before ++ x :: after ∧ p x ∧ ∀ y ∈ before, ¬ p y

theorem find?_eq_some_iff_firstOf {α : Type} {p : α → Bool} {xs : List α} {x : α} :
    xs.find? p = some x ↔ FirstOf (fun y => p y = true) xs x := by
  rw [List.find?_eq_some_iff_append]
  constructor
  · rintro ⟨hx, before, after, hxs, hbefore⟩
    exact ⟨before, after, hxs, hx, fun y hy => by simpa using hbefore y hy⟩
  · rintro ⟨before, after, hxs, hx, hbefore⟩
    exact ⟨hx, before, after, hxs, fun y hy => by simpa using hbefore y hy⟩

theorem FirstOf.congr {α : Type} {p q : α → Prop} (h : ∀ y, p y ↔ q y) {xs : List α} {x : α} :
    FirstOf p xs x ↔ FirstOf q xs x := by
  rw [funext fun y => propext (h y)]

/-! ## Tiers -/

/-- What is served to the target, if anything. -/
def Serve.yields (t : Target) : Serve → Option String
  | .variation id => some id
  | .distribution d => d.resolve? t

namespace Snapshot

variable (s : Snapshot) (t : Target)

/-- An entry of a target map is for a target that it lists, or that is in a segment it names. -/
def IsFor (entry : VariationMap) : Prop :=
  (∃ ref ∈ entry.targets, ref.identifier = t.identifier) ∨
    ∃ id ∈ entry.targetSegments, ∃ g, s.segment? id = some g ∧
      (g.contains s.host s.budget t).run = true

/-- All clauses of a rule hold. -/
def Matches (rule : ServingRule) : Prop :=
  ∀ c ∈ rule.clauses, (c.holds s.host s.budget t).run = true

/-- What a flag serves, by the tier that decides. -/
inductive Serves (f : Flag) : Option String → Prop
  /-- The flag is off, or its prerequisites are not met. -/
  | off (h : f.state = .off ∨ ¬ s.Dependable s.budget t f.feature) :
      Serves f (some f.offVariation)
  /-- The target map has an entry for the target. -/
  | mapped {entry : VariationMap} (hstate : f.state = .on)
      (hmet : s.Dependable s.budget t f.feature) (hnamed : t.identifier ≠ "")
      (hentry : FirstOf (s.IsFor t) f.variationToTargetMap entry) :
      Serves f (some entry.variation)
  /-- It has none, but there is a rule that matches, and what leads of these yields something. -/
  | ruled {rule : ServingRule} {id : String} (hstate : f.state = .on)
      (hmet : s.Dependable s.budget t f.feature) (hnamed : t.identifier ≠ "")
      (hunmapped : ∀ entry ∈ f.variationToTargetMap, ¬ s.IsFor t entry)
      (hrule : Flag.Leads (s.Matches t) f.rules rule) (hyields : rule.serve.yields t = some id) :
      Serves f (some id)
  /-- Nothing else decides. -/
  | byDefault (hstate : f.state = .on) (hmet : s.Dependable s.budget t f.feature)
      (hrest : t.identifier = "" ∨ (∀ entry ∈ f.variationToTargetMap, ¬ s.IsFor t entry) ∧
        ∀ rule, Flag.Leads (s.Matches t) f.rules rule → rule.serve.yields t = none) :
      Serves f (f.defaultServe.yields t)

/-- What an evaluation comes to. -/
inductive Decides (flagId : String) (expected : Option FlagKind) :
    Except EvaluationError (Flag × Variation) → Prop
  | flagNotFound (hflag : s.flag? flagId = none) :
      Decides flagId expected (.error (.flagNotFound flagId))
  | kindMismatch {f : Flag} {kind : FlagKind} (hflag : s.flag? flagId = some f)
      (hkind : expected = some kind) (hne : f.kind ≠ kind) :
      Decides flagId expected (.error (.kindMismatch kind f.kind))
  | noVariation {f : Flag} {served : Option String} (hflag : s.flag? flagId = some f)
      (hkind : ∀ kind, expected = some kind → f.kind = kind) (hserves : s.Serves t f served)
      (hnone : served = none ∨ served = some "") :
      Decides flagId expected (.error (.noVariation flagId))
  | variationNotFound {f : Flag} {id : String} (hflag : s.flag? flagId = some f)
      (hkind : ∀ kind, expected = some kind → f.kind = kind) (hserves : s.Serves t f (some id))
      (hid : id ≠ "") (hnone : ∀ v ∈ f.variations, v.identifier ≠ id) :
      Decides flagId expected (.error (.variationNotFound flagId id))
  | served {f : Flag} {id : String} {v : Variation} (hflag : s.flag? flagId = some f)
      (hkind : ∀ kind, expected = some kind → f.kind = kind) (hserves : s.Serves t f (some id))
      (hid : id ≠ "") (hfirst : FirstOf (·.identifier = id) f.variations v) :
      Decides flagId expected (.ok (f, v))

/-! ## What the walk comes to -/

variable {s t}

theorem run_resolve_serve (serve : Serve) :
    (serve.resolve s.host Watch.none t).run = serve.yields t := by
  cases serve with
  | variation id => rfl
  | distribution d =>
    change d.pick? (t.reportBucket s.host d.bucketBy).run = d.pick? (t.bucket d.bucketBy)
    rw [Target.reportBucket]
    split <;> rfl

theorem run_isMember_iff (ids : List String) : (isMember s.host s.budget t ids).run = true ↔
    ∃ id ∈ ids, ∃ g, s.segment? id = some g ∧ (g.contains s.host s.budget t).run = true := by
  rw [isMember, run_isMemberBy, List.any_eq_true]
  refine exists_congr fun id => and_congr_right fun _ => ?_
  rw [Option.any_eq_true]

theorem isListed_iff (hnamed : t.identifier ≠ "") (list : List TargetRef) :
    isListed list t = true ↔ ∃ ref ∈ list, ref.identifier = t.identifier := by
  simp [isListed, hnamed]

variable (s t) in
/-- Whether an entry of a target map is for a target, as the walk asks it. -/
def entryFits (entry : VariationMap) : Bool :=
  isListed entry.targets t || (isMember s.host s.budget t entry.targetSegments).run

theorem entryFits_iff (hnamed : t.identifier ≠ "") (entry : VariationMap) :
    s.entryFits t entry = true ↔ s.IsFor t entry := by
  rw [entryFits, Bool.or_eq_true, isListed_iff hnamed, run_isMember_iff]
  rfl

theorem run_findMapped (entries : List VariationMap) :
    (Flag.findMapped s.host s.budget t entries).run =
      (entries.find? (s.entryFits t)).map (·.variation) := by
  induction entries with
  | nil => rfl
  | cons entry entries ih =>
    rw [List.find?_cons]
    unfold Flag.findMapped entryFits
    cases isListed entry.targets t with
    | true => rfl
    | false =>
      change (if (isMember s.host s.budget t entry.targetSegments).run then
          some entry.variation
        else (Flag.findMapped s.host s.budget t entries).run) = _
      rw [Bool.false_or]
      cases (isMember s.host s.budget t entry.targetSegments).run with
      | true => rfl
      | false => exact ih

variable (s t) in
/-- Whether all clauses of a rule hold, as the walk asks them. -/
def ruleFits (rule : ServingRule) : Bool :=
  rule.clauses.all fun c => (c.holds s.host s.budget t).run

theorem ruleFits_iff (rule : ServingRule) : s.ruleFits t rule = true ↔ s.Matches t rule := by
  rw [ruleFits, List.all_eq_true]
  rfl

theorem run_findMatching (rules : List ServingRule) :
    (Flag.findMatching s.host s.budget t rules).run = rules.find? (s.ruleFits t) := by
  induction rules with
  | nil => rfl
  | cons rule rules ih =>
    have hfits : (rule.clauses.allM fun c : Clause => c.holds s.host s.budget t).run = s.ruleFits t rule :=
      run_allM _ _
    rw [List.find?_cons, ← hfits]
    change (if (rule.clauses.allM fun c : Clause => c.holds s.host s.budget t).run then some rule
      else (Flag.findMatching s.host s.budget t rules).run) = _
    cases (rule.clauses.allM fun c : Clause => c.holds s.host s.budget t).run with
    | true => rfl
    | false => exact ih

variable {f : Flag}

theorem run_serveDefault : (f.serveDefault s.host Watch.none t).run = f.defaultServe.yields t :=
  run_resolve_serve f.defaultServe

/-- **The tier of rules**: what the rule that leads yields, or else the default. -/
theorem run_serveByRules : (f.serveByRules s.host s.budget Watch.none t).run =
    ((f.rulesInOrder.find? (s.ruleFits t)).bind (·.serve.yields t)).or
      (f.defaultServe.yields t) := by
  have hfound := run_findMatching (s := s) (t := t) f.rulesInOrder
  have hdefault := run_serveDefault (s := s) (t := t) (f := f)
  unfold Flag.serveByRules
  cases hrule : f.rulesInOrder.find? (s.ruleFits t) with
  | none =>
    rw [hrule] at hfound
    cases f.rules.isEmpty <;> simp [hfound, hdefault]
  | some rule =>
    rw [hrule] at hfound
    have hyields := run_resolve_serve (s := s) (t := t) rule.serve
    cases hid : rule.serve.yields t with
    | none =>
      rw [hid] at hyields
      cases f.rules.isEmpty <;> simp [hfound, hyields, hid, hdefault]
    | some id =>
      rw [hid] at hyields
      cases f.rules.isEmpty <;> simp [hfound, hyields, hid]

/-- **The tiers of a flag that is on.** -/
theorem run_serveOn : (f.serveOn s.host s.budget Watch.none t).run =
    if t.identifier = "" then f.defaultServe.yields t
    else ((f.variationToTargetMap.find? (s.entryFits t)).map (·.variation)).or
      (((f.rulesInOrder.find? (s.ruleFits t)).bind (·.serve.yields t)).or
        (f.defaultServe.yields t)) := by
  by_cases hid : t.identifier = ""
  · rw [if_pos hid, Flag.serveOn, if_pos (String.isEmpty_iff.mpr hid), run_serveDefault]
  · have hfound := run_findMapped (s := s) (t := t) f.variationToTargetMap
    have hrules := run_serveByRules (s := s) (t := t) (f := f)
    rw [if_neg hid, Flag.serveOn, if_neg fun hempty => hid (String.isEmpty_iff.mp hempty)]
    cases hmapped : f.variationToTargetMap.find? (s.entryFits t) with
    | none =>
      rw [hmapped] at hfound
      cases f.variationToTargetMap.isEmpty <;> simp [hfound, hrules]
    | some entry =>
      rw [hmapped] at hfound
      cases f.variationToTargetMap.isEmpty <;> simp [hfound]

theorem run_serveByState : (f.serveByState s.host s.budget Watch.none t).run =
    if f.state = .on then (f.serveOn s.host s.budget Watch.none t).run
    else some f.offVariation := by
  change (if f.state = .on then f.serveOn s.host s.budget Watch.none t
    else pure (some f.offVariation)).run = _
  split <;> rfl

theorem run_resolve : (f.resolve s.host s.budget Watch.none t).run =
    if f.prerequisites.isEmpty || (f.prerequisitesMet s.host s.budget t).run then
      (f.serveByState s.host s.budget Watch.none t).run
    else some f.offVariation := by
  rw [Flag.resolve]
  cases f.prerequisites.isEmpty with
  | true => rfl
  | false =>
    change (if (f.prerequisitesMet s.host s.budget t).run then
        f.serveByState s.host s.budget Watch.none t else pure (some f.offVariation)).run = _
    rw [Bool.false_or]
    split <;> rfl

/-- A flag's prerequisites are looked at unless it has none. -/
theorem isEmpty_or_prerequisitesMet_iff (hf : s.flag? f.feature = some f) :
    (f.prerequisites.isEmpty || (f.prerequisitesMet s.host s.budget t).run) = true ↔
      s.Dependable s.budget t f.feature := by
  have hmet := prerequisitesMet_iff_dependable (t := t) hf s.length_le_budget
  rw [Bool.or_eq_true, hmet]
  refine or_iff_right_of_imp fun hnone => ?_
  have hbelow : s.DependableBelow s.budget t [] f.feature := dependableBelow_of_isEmpty hf hnone
  exact hbelow.toDependable

/-! ## Evaluation decides -/

/-- **What a flag resolves to is what it serves.** -/
theorem serves_resolve (hf : s.flag? f.feature = some f) :
    s.Serves t f (f.resolve s.host s.budget Watch.none t).run := by
  have hmet := isEmpty_or_prerequisitesMet_iff (t := t) hf
  rw [run_resolve]
  split
  · next h =>
    have hdependable := hmet.mp h
    rw [run_serveByState]
    split
    · next hon =>
      rw [run_serveOn]
      by_cases hid : t.identifier = ""
      · rw [if_pos hid]
        exact .byDefault hon hdependable (.inl hid)
      · rw [if_neg hid]
        cases hmapped : f.variationToTargetMap.find? (s.entryFits t) with
        | some entry =>
          rw [find?_eq_some_iff_firstOf, FirstOf.congr (entryFits_iff hid)] at hmapped
          exact .mapped hon hdependable hid hmapped
        | none =>
          have hunmapped : ∀ entry ∈ f.variationToTargetMap, ¬ s.IsFor t entry := by
            intro entry hentry hfor
            exact List.find?_eq_none.mp hmapped entry hentry ((entryFits_iff hid entry).mpr hfor)
          have hleads : ∀ rule, Flag.Leads (s.Matches t) f.rules rule ↔
              f.rulesInOrder.find? (s.ruleFits t) = some rule := by
            intro rule
            rw [Flag.find?_rulesInOrder_iff, Flag.Leads.congr ruleFits_iff]
          rw [Option.map_none, Option.none_or]
          cases hyields : (f.rulesInOrder.find? (s.ruleFits t)).bind (·.serve.yields t) with
          | some id =>
            obtain ⟨rule, hrule, hid'⟩ := Option.bind_eq_some_iff.mp hyields
            exact .ruled hon hdependable hid hunmapped ((hleads rule).mpr hrule) hid'
          | none =>
            refine .byDefault hon hdependable (.inr ⟨hunmapped, fun rule hrule => ?_⟩)
            rw [hleads] at hrule
            rwa [hrule] at hyields
    · next hoff =>
      refine .off (.inl ?_)
      cases hstate : f.state with
      | off => rfl
      | on => exact absurd hstate hoff
  · next h => exact .off (.inr fun hdependable => h (hmet.mpr hdependable))

/-- **A flag serves nothing else.** -/
theorem Serves.resolve_eq (hf : s.flag? f.feature = some f) {served : Option String}
    (h : s.Serves t f served) : (f.resolve s.host s.budget Watch.none t).run = served := by
  have hmet := isEmpty_or_prerequisitesMet_iff (t := t) hf
  have hunmapped : (∀ entry ∈ f.variationToTargetMap, ¬ s.IsFor t entry) → t.identifier ≠ "" →
      f.variationToTargetMap.find? (s.entryFits t) = none := by
    intro hnone hid
    rw [List.find?_eq_none]
    exact fun entry hentry hfits => hnone entry hentry ((entryFits_iff hid entry).mp hfits)
  rw [run_resolve, run_serveByState, run_serveOn]
  cases h with
  | off h =>
    rcases h with hoff | hunmet
    · simp [hoff]
    · rw [if_neg fun h => hunmet (hmet.mp h)]
  | @mapped entry hon hdependable hid hentry =>
    have hfound : f.variationToTargetMap.find? (s.entryFits t) = some entry := by
      rw [find?_eq_some_iff_firstOf, FirstOf.congr (entryFits_iff hid)]
      exact hentry
    rw [if_pos (hmet.mpr hdependable), if_pos hon, if_neg hid, hfound]
    rfl
  | @ruled rule id hon hdependable hid hnone hrule hyields =>
    have hfound : f.rulesInOrder.find? (s.ruleFits t) = some rule := by
      rw [Flag.find?_rulesInOrder_iff, Flag.Leads.congr ruleFits_iff]
      exact hrule
    rw [if_pos (hmet.mpr hdependable), if_pos hon, if_neg hid, hunmapped hnone hid, hfound,
      Option.bind_some, hyields]
    rfl
  | byDefault hon hdependable hrest =>
    rw [if_pos (hmet.mpr hdependable), if_pos hon]
    by_cases hid : t.identifier = ""
    · rw [if_pos hid]
    · obtain ⟨hnone, hrules⟩ := hrest.resolve_left hid
      have hyields : (f.rulesInOrder.find? (s.ruleFits t)).bind (·.serve.yields t) = none := by
        rw [Option.bind_eq_none_iff]
        intro rule hrule
        rw [Flag.find?_rulesInOrder_iff, Flag.Leads.congr ruleFits_iff] at hrule
        exact hrules rule hrule
      rw [if_neg hid, hunmapped hnone hid, hyields]
      rfl

variable {flagId : String} {expected : Option FlagKind}

/-- What an evaluation does with the flag it finds. -/
theorem run_evaluate (s : Snapshot) (t : Target) (flagId : String) (expected : Option FlagKind) :
    (Evaluation.evaluate s.host s.budget flagId t expected).run =
      match s.flag? flagId with
      | none => .error (.flagNotFound flagId)
      | some f => match Evaluation.kindFits expected f with
        | .error e => .error e
        | .ok () => (f.variationOf (f.resolve s.host s.budget Watch.none t).run).map
            fun v => (f, v) := by
  have hlook : s.host.flag? flagId = s.flag? flagId := rfl
  rw [Evaluation.evaluate, Evaluation.walk, hlook]
  cases s.flag? flagId with
  | none => rfl
  | some f =>
    change (match Evaluation.kindFits expected f with
      | .error e => pure (.error e)
      | .ok () => (·.map fun v => (f, v)) <$> f.serve s.host s.budget Watch.none t : Id _).run = _
    dsimp only
    cases Evaluation.kindFits expected f <;> rfl

theorem kindFits_eq_ok_iff : Evaluation.kindFits expected f = .ok () ↔
    ∀ kind, expected = some kind → f.kind = kind := by
  cases expected with
  | none => simp [Evaluation.kindFits]
  | some kind =>
    by_cases hkind : f.kind = kind <;> simp [Evaluation.kindFits, hkind]

theorem kindFits_of_ne {kind : FlagKind} (hne : f.kind ≠ kind) :
    Evaluation.kindFits (some kind) f = .error (.kindMismatch kind f.kind) := by
  rw [Evaluation.kindFits, if_neg hne]

/-! What becomes of a variation that is served. -/

theorem variationOf_of_empty {served : Option String} (h : served = none ∨ served = some "") :
    f.variationOf served = .error (.noVariation f.feature) := by
  rcases h with rfl | rfl <;> rfl

theorem variationOf_some {id : String} (hid : id ≠ "") :
    f.variationOf (some id) = match f.findVariation? id with
      | some v => .ok v
      | none => .error (.variationNotFound f.feature id) := by
  have hfilled : ¬ id.isEmpty := fun hempty => hid (String.isEmpty_iff.mp hempty)
  cases hfound : f.findVariation? id <;> simp [Flag.variationOf, hfilled, hfound]

theorem findVariation?_eq_some_iff {id : String} {v : Variation} :
    f.findVariation? id = some v ↔ FirstOf (·.identifier = id) f.variations v := by
  rw [Flag.findVariation?, find?_eq_some_iff_firstOf]
  exact FirstOf.congr fun v => decide_eq_true_iff

theorem findVariation?_eq_none_iff {id : String} :
    f.findVariation? id = none ↔ ∀ v ∈ f.variations, v.identifier ≠ id := by
  simp [Flag.findVariation?]

/-- **Evaluation comes to what is decided.** -/
theorem decides_evaluate (s : Snapshot) (t : Target) (flagId : String)
    (expected : Option FlagKind) :
    s.Decides t flagId expected (Evaluation.evaluate s.host s.budget flagId t expected).run := by
  rw [run_evaluate]
  cases hflag : s.flag? flagId with
  | none => exact .flagNotFound hflag
  | some f =>
    have hname : f.feature = flagId := feature_of_flag? hflag
    have hserves : s.Serves t f (f.resolve s.host s.budget Watch.none t).run :=
      serves_resolve (hname ▸ hflag)
    dsimp only
    by_cases hkind : ∀ kind, expected = some kind → f.kind = kind
    · rw [kindFits_eq_ok_iff.mpr hkind]
      dsimp only
      generalize (f.resolve s.host s.budget Watch.none t).run = served at hserves
      by_cases hempty : served = none ∨ served = some ""
      · rw [variationOf_of_empty hempty, hname]
        exact .noVariation hflag hkind hserves hempty
      · obtain ⟨hsome, hid⟩ := not_or.mp hempty
        obtain ⟨id, rfl⟩ := Option.ne_none_iff_exists'.mp hsome
        have hid' : id ≠ "" := fun h => hid (congrArg some h)
        rw [variationOf_some hid']
        cases hfind : f.findVariation? id with
        | none =>
          rw [hname]
          exact .variationNotFound hflag hkind hserves hid' (findVariation?_eq_none_iff.mp hfind)
        | some v => exact .served hflag hkind hserves hid' (findVariation?_eq_some_iff.mp hfind)
    · obtain ⟨kind, hkind⟩ := not_forall.mp hkind
      obtain ⟨rfl, hne⟩ := Classical.not_imp.mp hkind
      rw [kindFits_of_ne hne]
      exact .kindMismatch hflag rfl hne

/-- **And to nothing else.** -/
theorem Decides.evaluate_eq {result : Except EvaluationError (Flag × Variation)}
    (h : s.Decides t flagId expected result) :
    (Evaluation.evaluate s.host s.budget flagId t expected).run = result := by
  have hfound : ∀ {f : Flag} {served : Option String}, s.flag? flagId = some f →
      (∀ kind, expected = some kind → f.kind = kind) → s.Serves t f served →
      f.feature = flagId ∧ (Evaluation.evaluate s.host s.budget flagId t expected).run =
        (f.variationOf served).map fun v => (f, v) := by
    intro f served hflag hkind hserves
    have hname : f.feature = flagId := feature_of_flag? hflag
    refine ⟨hname, ?_⟩
    rw [run_evaluate, hflag]
    dsimp only
    rw [kindFits_eq_ok_iff.mpr hkind, hserves.resolve_eq (hname ▸ hflag)]
  cases h with
  | flagNotFound hflag => rw [run_evaluate, hflag]
  | kindMismatch hflag hkind hne =>
    rw [run_evaluate, hflag, hkind]
    dsimp only
    rw [kindFits_of_ne hne]
  | noVariation hflag hkind hserves hnone =>
    obtain ⟨hname, hrun⟩ := hfound hflag hkind hserves
    rw [hrun, variationOf_of_empty hnone, hname]
    rfl
  | variationNotFound hflag hkind hserves hid hnone =>
    obtain ⟨hname, hrun⟩ := hfound hflag hkind hserves
    rw [hrun, variationOf_some hid, findVariation?_eq_none_iff.mpr hnone, hname]
    rfl
  | served hflag hkind hserves hid hfirst =>
    obtain ⟨-, hrun⟩ := hfound hflag hkind hserves
    rw [hrun, variationOf_some hid, findVariation?_eq_some_iff.mpr hfirst]
    rfl

/-! ## The order in which rules are listed -/

/-- The flag with its rules in another order. -/
def withRules (order : Flag → List ServingRule) (f : Flag) : Flag := { f with rules := order f }

/-- The snapshot with the rules of each flag in another order. -/
def reorderRules (order : Flag → List ServingRule) (s : Snapshot) : Snapshot :=
  { s with flags := s.flags.map (withRules order) }

variable {order : Flag → List ServingRule}

theorem flag?_reorderRules (id : String) :
    (s.reorderRules order).flag? id = (s.flag? id).map (withRules order) := by
  simp only [Snapshot.flag?, reorderRules, List.find?_map]
  rfl

theorem budget_reorderRules : (s.reorderRules order).budget = s.budget := by
  simp only [Snapshot.budget, reorderRules, List.length_map]

variable (horder : ∀ f n, (order f).filter (·.priority = n) = f.rules.filter (·.priority = n))

include horder in
theorem isEmpty_rules_withRules (f : Flag) :
    (withRules order f).rules.isEmpty = f.rules.isEmpty := by
  have hmem := Flag.mem_iff_of_filter_priority (horder f)
  rw [Bool.eq_iff_iff, List.isEmpty_iff, List.isEmpty_iff, List.eq_nil_iff_forall_not_mem,
    List.eq_nil_iff_forall_not_mem]
  exact forall_congr' fun rule => not_congr (hmem rule)

include horder in
/-- What a flag serves by itself does not see the order. -/
theorem serveByState_withRules (budget : Budget) (f : Flag) :
    (withRules order f).serveByState (s.reorderRules order).host budget Watch.none t =
      f.serveByState s.host budget Watch.none t := by
  have hlook : (s.reorderRules order).host =
      { s.host with flag? := (s.reorderRules order).host.flag? } := rfl
  rw [hlook, Flag.serveByState_flag?]
  have hsort : (withRules order f).rulesInOrder = f.rulesInOrder :=
    Flag.rulesInOrder_congr (horder f)
  have hrules : (withRules order f).serveByRules s.host budget Watch.none t =
      f.serveByRules s.host budget Watch.none t := by
    simp only [Flag.serveByRules, hsort, isEmpty_rules_withRules horder f]
    rfl
  simp only [Flag.serveByState, Flag.serveOn, hrules]
  rfl

include horder in
/-- Nor does the search through the prerequisites. -/
theorem prerequisitesMetWithin_reorderRules (budget : Budget) (levels : Nat) (path : List String)
    (f : Flag) :
    ((withRules order f).prerequisitesMetWithin (s.reorderRules order).host budget t levels
        path).run = (f.prerequisitesMetWithin s.host budget t levels path).run := by
  induction levels generalizing path f with
  | zero => rfl
  | succ levels ih =>
    rw [prerequisitesMetWithin_succ, prerequisitesMetWithin_succ]
    refine congrArg (List.all _) (funext fun p => ?_)
    rw [flag?_reorderRules, Option.any_map]
    refine congrArg (_ && ·) (congrArg (Option.any · _) (funext fun g => ?_))
    exact congrArg₂ (· && ·) (congrArg (_ || ·) (ih _ g))
      (congrArg (Flag.accepts p) (congrArg Id.run (serveByState_withRules horder budget g)))

include horder in
theorem run_resolve_withRules (f : Flag) :
    ((withRules order f).resolve (s.reorderRules order).host (s.reorderRules order).budget
        Watch.none t).run = (f.resolve s.host s.budget Watch.none t).run := by
  have hmet := prerequisitesMetWithin_reorderRules (s := s) (t := t) horder s.budget
    s.budget.flags [] f
  have hserve := serveByState_withRules (s := s) (t := t) horder s.budget f
  rw [run_resolve, run_resolve, budget_reorderRules, hserve, Flag.prerequisitesMet, hmet]
  rfl

include horder in
/-- **Rules may be listed in any order that leaves those of one priority in theirs.** -/
theorem run_evaluate_reorderRules :
    (Evaluation.evaluate (s.reorderRules order).host (s.reorderRules order).budget flagId t
        expected).run =
      (Evaluation.evaluate s.host s.budget flagId t expected).run.map
        fun decided => (withRules order decided.1, decided.2) := by
  rw [run_evaluate, run_evaluate, flag?_reorderRules]
  cases s.flag? flagId with
  | none => rfl
  | some f =>
    have hkind : Evaluation.kindFits expected (withRules order f) =
        Evaluation.kindFits expected f := rfl
    have hvariation : ∀ served, (withRules order f).variationOf served = f.variationOf served :=
      fun _ => rfl
    rw [Option.map_some]
    dsimp only
    rw [hkind, hvariation, run_resolve_withRules horder]
    cases Evaluation.kindFits expected f with
    | error e => rfl
    | ok u =>
      dsimp only
      cases f.variationOf (f.resolve s.host s.budget Watch.none t).run <;> rfl

/-! ## Precedence -/

/-- **Evaluation follows the order of its tiers**: it comes to what `Decides` says, which is one
thing, and another order of the rules changes nothing as long as rules of one priority stay in
theirs. -/
theorem evaluate_iff_decides (s : Snapshot) (t : Target) (flagId : String)
    (expected : Option FlagKind) :
    (∀ result, (Evaluation.evaluate s.host s.budget flagId t expected).run = result ↔
      s.Decides t flagId expected result) ∧
    ∀ order : Flag → List ServingRule,
      (∀ f n, (order f).filter (·.priority = n) = f.rules.filter (·.priority = n)) →
      (Evaluation.evaluate (s.reorderRules order).host (s.reorderRules order).budget flagId t
          expected).run =
        (Evaluation.evaluate s.host s.budget flagId t expected).run.map
          fun decided => (withRules order decided.1, decided.2) := by
  refine ⟨fun result => ⟨?_, fun h => h.evaluate_eq⟩, fun order horder => ?_⟩
  · rintro rfl
    exact decides_evaluate s t flagId expected
  · exact run_evaluate_reorderRules horder

/-- A flag whose rules are not listed by priority, and the last of which comes first. -/
def raffle : Flag :=
  { plainFlag "raffle" [] with
    rules := [⟨none, 5, [], .variation "yes"⟩, ⟨none, 5, [], .variation "no"⟩,
      ⟨none, -1, [], .variation "no"⟩] }

/-- A snapshot of that flag. -/
def fair : Snapshot := ⟨[raffle], []⟩

/-- The last of its rules decides what the flag serves. -/
theorem serves_raffle : fair.Serves (.ofIdentifier "t") raffle (some "no") := by
  have hstored : fair.flag? raffle.feature = some raffle := by decide
  have hbelow : fair.DependableBelow fair.budget (.ofIdentifier "t") [] raffle.feature :=
    dependableBelow_of_isEmpty hstored rfl
  refine .ruled rfl hbelow.toDependable (by decide)
    (fun entry hentry => absurd hentry List.not_mem_nil) ⟨2, rfl, ?_, ?_⟩ rfl
  · exact fun c hc => absurd hc List.not_mem_nil
  · intro j other hother _
    match j with
    | 0 =>
      cases hother
      exact .inl (by decide)
    | 1 =>
      cases hother
      exact .inl (by decide)
    | j + 2 =>
      obtain ⟨hlength, rfl⟩ := List.getElem?_eq_some_iff.mp hother
      obtain rfl : j = 0 := Nat.lt_one_iff.mp (Nat.lt_of_add_lt_add_right (n := 2) hlength)
      exact .inr ⟨rfl, le_refl _⟩

/-- That is what evaluation comes to, also with the rules listed by priority. -/
theorem evaluate_iff_decides_fair :
    (∀ (f : Flag) n, f.rulesInOrder.filter (·.priority = n) = f.rules.filter (·.priority = n)) ∧
    (Evaluation.evaluate fair.host fair.budget "raffle" (.ofIdentifier "t")
        (some .boolean)).run = .ok (raffle, ⟨"no", none, none, "false"⟩) ∧
    (Evaluation.evaluate (fair.reorderRules Flag.rulesInOrder).host
        (fair.reorderRules Flag.rulesInOrder).budget "raffle" (.ofIdentifier "t")
        (some .boolean)).run =
      .ok (withRules Flag.rulesInOrder raffle, ⟨"no", none, none, "false"⟩) := by
  have h := evaluate_iff_decides fair (.ofIdentifier "t") "raffle" (some .boolean)
  have hrun := (h.1 (.ok (raffle, ⟨"no", none, none, "false"⟩))).mpr
    (.served (by decide) (by decide) serves_raffle (by decide)
      ⟨[⟨"yes", none, none, "true"⟩], [], rfl, rfl, by decide⟩)
  refine ⟨Flag.filter_rulesInOrder, hrun, ?_⟩
  rw [h.2 Flag.rulesInOrder Flag.filter_rulesInOrder, hrun]
  rfl

end Snapshot

end FlagReplica
