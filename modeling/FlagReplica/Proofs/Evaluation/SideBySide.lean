import FlagReplica.Evaluation.Evaluate
import FlagReplica.Proofs.Evaluation.RuleOrder
import Mathlib.Data.Set.Basic
/-!
# Two evaluations side by side

Evaluation is one program for every place that it can take place in. Run in two places and for two
targets, it takes the same steps as long as it finds the same flags and segments and the targets
have the same attributes, and it asks for no more of these than is mentioned by what it found
before. `Flag.mentions` and `Segment.mentions` say what that is.

What it is for actions in two monads to come to the same is left open: a `Pairing` is any relation
that holds of `pure` and goes on over `bind`. The condition in it is what is known of the result
that both come to. It is there for the look-ups, so that what is mentioned by a flag that was found
is known to be mentioned when it is asked for.
-/

namespace FlagReplica

/-! ## What is mentioned -/

/-- What a flag or a segment can mention: a flag, a segment, or an attribute of targets. -/
inductive Mention
  | flag (id : String)
  | segment (id : String)
  | attr (name : String)
  deriving DecidableEq, Repr

/-- A clause that lists segments mentions these, and any other its attribute. -/
def Clause.mentions (c : Clause) : List Mention :=
  if c.op = .segmentMatch then c.values.map .segment else [.attr c.attributeName]

/-- A distribution mentions the attribute that it deals the buckets by. -/
def Serve.mentions : Serve → List Mention
  | .distribution d => [.attr d.bucketBy]
  | .variation _ => []

/-- A rule mentions what its clauses mention, and what it serves. -/
def ServingRule.mentions (rule : ServingRule) : List Mention :=
  rule.clauses.flatMap (·.mentions) ++ rule.serve.mentions

/-- A segment mentions what its clauses mention. -/
def Segment.mentions (g : Segment) : List Mention := g.rules.flatMap (·.mentions)

/-- A flag mentions its prerequisites, the segments of its target map, and what its rules and its
default mention. -/
def Flag.mentions (f : Flag) : List Mention :=
  f.prerequisites.map (fun p => .flag p.feature) ++
    f.variationToTargetMap.flatMap (·.targetSegments.map .segment) ++
    f.rules.flatMap (·.mentions) ++ f.defaultServe.mentions

section Mentions

variable {c : Clause} {rule : ServingRule} {g : Segment} {f : Flag} {what : Mention}

theorem Clause.segment_mem_mentions {id : String} (hop : c.op = .segmentMatch)
    (hid : id ∈ c.values) : .segment id ∈ c.mentions := by
  rw [mentions, if_pos hop]
  exact List.mem_map_of_mem hid

theorem Clause.attribute_mem_mentions (hop : c.op ≠ .segmentMatch) :
    .attr c.attributeName ∈ c.mentions := by
  rw [mentions, if_neg hop]
  exact List.mem_singleton_self _

theorem ServingRule.mem_mentions_of_clause (hc : c ∈ rule.clauses) (h : what ∈ c.mentions) :
    what ∈ rule.mentions :=
  List.mem_append_left _ (List.mem_flatMap.mpr ⟨c, hc, h⟩)

theorem ServingRule.mem_mentions_of_serve (h : what ∈ rule.serve.mentions) :
    what ∈ rule.mentions :=
  List.mem_append_right _ h

theorem Segment.mem_mentions_of_clause (hc : c ∈ g.rules) (h : what ∈ c.mentions) :
    what ∈ g.mentions :=
  List.mem_flatMap.mpr ⟨c, hc, h⟩

theorem Flag.flag_mem_mentions {p : Prerequisite} (hp : p ∈ f.prerequisites) :
    .flag p.feature ∈ f.mentions := by
  simp only [mentions, List.mem_append, List.mem_map]
  exact .inl (.inl (.inl ⟨p, hp, rfl⟩))

theorem Flag.segment_mem_mentions {entry : VariationMap} {id : String}
    (hentry : entry ∈ f.variationToTargetMap) (hid : id ∈ entry.targetSegments) :
    .segment id ∈ f.mentions := by
  simp only [mentions, List.mem_append, List.mem_flatMap]
  exact .inl (.inl (.inr ⟨entry, hentry, List.mem_map_of_mem hid⟩))

theorem Flag.mem_mentions_of_rule (hrule : rule ∈ f.rules) (h : what ∈ rule.mentions) :
    what ∈ f.mentions := by
  simp only [mentions, List.mem_append, List.mem_flatMap]
  exact .inl (.inr ⟨rule, hrule, h⟩)

theorem Flag.mem_mentions_of_default (h : what ∈ f.defaultServe.mentions) : what ∈ f.mentions :=
  List.mem_append_right _ h

end Mentions

/-! ## Pairings -/

/-- What it is for an action in one monad and one in another to come to the same. -/
structure Pairing (m n : Type → Type) [Monad m] [Monad n] where
  /-- Both come to the same, which meets a condition. -/
  Alike {α : Type} : (α → Prop) → m α → n α → Prop
  pure {α : Type} {p : α → Prop} {x : α} : p x → Alike p (Pure.pure x) (Pure.pure x)
  bind {α β : Type} {p : α → Prop} {q : β → Prop} {a : m α} {b : n α} {f : α → m β} {g : α → n β} :
    Alike p a b → (∀ x, p x → Alike q (f x) (g x)) → Alike q (a >>= f) (b >>= g)

namespace Pairing

section Laws

variable {m n : Type → Type} [Monad m] [Monad n] {α β : Type} (pairing : Pairing m n)

/-- Both come to the same, whatever it is. -/
def Same (a : m α) (b : n α) : Prop := pairing.Alike (fun _ => True) a b

variable {pairing} {p : α → Prop} {a a' : m α} {b b' : n α}

theorem same_pure (x : α) : pairing.Same (Pure.pure x) (Pure.pure x) := pairing.pure trivial

theorem Same.bind {f : α → m β} {g : α → n β} {q : β → Prop} (h : pairing.Same a b)
    (hf : ∀ x, pairing.Alike q (f x) (g x)) : pairing.Alike q (a >>= f) (b >>= g) :=
  pairing.bind h fun x _ => hf x

theorem Same.map [LawfulMonad m] [LawfulMonad n] (f : α → β) (h : pairing.Same a b) :
    pairing.Same (f <$> a) (f <$> b) := by
  rw [← bind_pure_comp, ← bind_pure_comp]
  exact h.bind fun x => same_pure (f x)

theorem alike_ite {c : Prop} [Decidable c] (h : pairing.Alike p a b)
    (h' : pairing.Alike p a' b') :
    pairing.Alike p (if c then a else a') (if c then b else b') := by
  split
  · exact h
  · exact h'

theorem same_anyM {f : α → m Bool} {g : α → n Bool} (xs : List α)
    (h : ∀ x ∈ xs, pairing.Same (f x) (g x)) : pairing.Same (xs.anyM f) (xs.anyM g) := by
  induction xs with
  | nil => exact same_pure false
  | cons x xs ih =>
    refine (h x List.mem_cons_self).bind fun found => ?_
    cases found with
    | true => exact same_pure true
    | false => exact ih fun y hy => h y (List.mem_cons_of_mem x hy)

theorem same_allM {f : α → m Bool} {g : α → n Bool} (xs : List α)
    (h : ∀ x ∈ xs, pairing.Same (f x) (g x)) : pairing.Same (xs.allM f) (xs.allM g) := by
  induction xs with
  | nil => exact same_pure true
  | cons x xs ih =>
    refine (h x List.mem_cons_self).bind fun holds => ?_
    cases holds with
    | true => exact ih fun y hy => h y (List.mem_cons_of_mem x hy)
    | false => exact same_pure false

end Laws

variable {m n : Type → Type} [Monad m] [Monad n]

/-- In both places the same is found of what is in the scope, and it mentions nothing that is not
in the scope. -/
structure Places (pairing : Pairing m n) (scope : Set Mention) (h : Host m) (h' : Host n) :
    Prop where
  flag? : ∀ id, .flag id ∈ scope →
    pairing.Alike (fun found => ∀ f ∈ found, ∀ what ∈ f.mentions, what ∈ scope)
      (h.flag? id) (h'.flag? id)
  segment? : ∀ id, .segment id ∈ scope →
    pairing.Alike (fun found => ∀ g ∈ found, ∀ what ∈ g.mentions, what ∈ scope)
      (h.segment? id) (h'.segment? id)
  log : ∀ level text, pairing.Same (h.log level text) (h'.log level text)

end Pairing

/-- Two targets cannot be told apart by what is in the scope. -/
structure Target.AlikeIn (scope : Set Mention) (t t' : Target) : Prop where
  identifier : t.identifier = t'.identifier
  attribute? : ∀ name, .attr name ∈ scope → t.attribute? name = t'.attribute? name

namespace Target.AlikeIn

variable {scope : Set Mention} {t t' : Target}

theorem refl (scope : Set Mention) (t : Target) : t.AlikeIn scope t := ⟨rfl, fun _ _ => rfl⟩

theorem isListed_eq (h : t.AlikeIn scope t') (list : List TargetRef) :
    isListed list t = isListed list t' := by
  rw [isListed, isListed, h.identifier]

theorem clauseText?_eq (h : t.AlikeIn scope t') {name : String}
    (hname : .attr name ∈ scope) : t.clauseText? name = t'.clauseText? name := by
  rw [clauseText?, clauseText?, h.attribute? name hname]

theorem bucketText?_eq (h : t.AlikeIn scope t') {name : String}
    (hname : .attr name ∈ scope) : t.bucketText? name = t'.bucketText? name := by
  rw [bucketText?, bucketText?, h.clauseText?_eq hname]

/-- A target falls back to its identifier, so that its bucket never depends on more. -/
theorem bucket_eq (h : t.AlikeIn scope t') {name : String} (hname : .attr name ∈ scope) :
    t.bucket name = t'.bucket name := by
  rw [bucket, bucket, h.bucketText?_eq hname, h.identifier]

end Target.AlikeIn

/-! ## Evaluation, part by part -/

namespace Pairing

variable {m n : Type → Type} [Monad m] [Monad n] [LawfulMonad m] [LawfulMonad n]
variable {pairing : Pairing m n} {scope : Set Mention} {h : Host m} {h' : Host n}
variable {t t' : Target} (hplaces : pairing.Places scope h h') (ht : t.AlikeIn scope t')
variable (budget : Budget)

include hplaces

omit [LawfulMonad m] [LawfulMonad n] in
theorem same_isMemberBy {contains : Segment → m Bool} {contains' : Segment → n Bool}
    (hcontains : ∀ g : Segment, (∀ what ∈ g.mentions, what ∈ scope) →
      pairing.Same (contains g) (contains' g))
    {ids : List String} (hids : ∀ id ∈ ids, .segment id ∈ scope) :
    pairing.Same (isMemberBy h contains ids) (isMemberBy h' contains' ids) := by
  refine same_anyM ids fun id hid => pairing.bind (hplaces.segment? id (hids id hid)) ?_
  intro found hfound
  cases found with
  | some g => exact hcontains g (hfound g rfl)
  | none => exact (hplaces.log _ _).bind fun _ => same_pure false

omit hplaces in
include ht in
theorem same_holdsWith {member : List String → m Bool} {member' : List String → n Bool}
    {c : Clause} (hc : ∀ what ∈ c.mentions, what ∈ scope)
    (hmember : (∀ id ∈ c.values, .segment id ∈ scope) →
      pairing.Same (member c.values) (member' c.values)) :
    pairing.Same (c.holdsWith member t) (c.holdsWith member' t') := by
  refine Same.map c.settle ?_
  unfold Clause.answer?
  cases hvalues : c.values with
  | nil => exact same_pure none
  | cons first values =>
    dsimp only
    rw [← hvalues]
    by_cases hop : c.op = .segmentMatch
    · rw [if_pos hop, if_pos hop]
      exact (hmember fun id hid => hc _ (c.segment_mem_mentions hop hid)).map some
    · rw [if_neg hop, if_neg hop, ht.clauseText?_eq (hc _ (c.attribute_mem_mentions hop))]
      exact same_pure _

include ht in
theorem same_containsWithin (levels : Nat) (visiting : List String) {g : Segment}
    (hg : ∀ what ∈ g.mentions, what ∈ scope) :
    pairing.Same (g.containsWithin h t levels visiting)
      (g.containsWithin h' t' levels visiting) := by
  induction levels generalizing visiting g with
  | zero => exact same_pure false
  | succ levels ih =>
    unfold Segment.containsWithin
    rw [ht.isListed_eq, ht.isListed_eq]
    refine alike_ite ((hplaces.log _ _).bind fun _ => same_pure false) ?_
    refine alike_ite (same_pure true) (alike_ite (same_pure false) ?_)
    refine same_anyM _ fun c hc => same_holdsWith ht (fun what hwhat => ?_) ?_
    · exact hg what (g.mem_mentions_of_clause hc hwhat)
    · exact same_isMemberBy hplaces fun other hother => ih _ hother

include ht

theorem same_isMember {ids : List String} (hids : ∀ id ∈ ids, .segment id ∈ scope) :
    pairing.Same (isMember h budget t ids) (isMember h' budget t' ids) :=
  same_isMemberBy hplaces (fun _ hg => same_containsWithin hplaces ht _ _ hg) hids

theorem same_holds {c : Clause} (hc : ∀ what ∈ c.mentions, what ∈ scope) :
    pairing.Same (c.holds h budget t) (c.holds h' budget t') :=
  same_holdsWith ht hc (same_isMember hplaces ht budget)

theorem same_findMapped {entries : List VariationMap}
    (hentries : ∀ entry ∈ entries, ∀ id ∈ entry.targetSegments, .segment id ∈ scope) :
    pairing.Same (Flag.findMapped h budget t entries) (Flag.findMapped h' budget t' entries) := by
  induction entries with
  | nil => exact same_pure none
  | cons entry entries ih =>
    unfold Flag.findMapped
    rw [ht.isListed_eq]
    refine alike_ite (same_pure _) ?_
    refine (same_isMember hplaces ht budget (hentries entry List.mem_cons_self)).bind fun _ => ?_
    exact alike_ite (same_pure _)
      (ih fun other hother => hentries other (List.mem_cons_of_mem entry hother))

/-- The rule that is found is one of those looked through. -/
theorem alike_findMatching {rules : List ServingRule}
    (hrules : ∀ rule ∈ rules, ∀ what ∈ rule.mentions, what ∈ scope) :
    pairing.Alike (fun found => ∀ rule ∈ found, ∀ what ∈ rule.mentions, what ∈ scope)
      (Flag.findMatching h budget t rules) (Flag.findMatching h' budget t' rules) := by
  induction rules with
  | nil => exact pairing.pure fun rule hrule => by cases hrule
  | cons rule rules ih =>
    have hrule := hrules rule List.mem_cons_self
    unfold Flag.findMatching
    refine (same_allM _ fun c hc => ?_).bind fun holds => alike_ite ?_ ?_
    · exact same_holds hplaces ht budget fun what hwhat =>
        hrule what (rule.mem_mentions_of_clause hc hwhat)
    · exact pairing.pure fun found hfound => Option.some.inj hfound ▸ hrule
    · exact ih fun other hother => hrules other (List.mem_cons_of_mem rule hother)

theorem same_report {d : Distribution} (hd : .attr d.bucketBy ∈ scope) :
    pairing.Same (d.report h t) (d.report h' t') := by
  refine Same.map d.pick? ?_
  unfold Target.reportBucket
  rw [ht.bucketText?_eq hd, ht.bucket_eq hd]
  exact alike_ite ((hplaces.log _ _).bind fun _ => same_pure _) (same_pure _)

variable {watch : Watch m} {watch' : Watch n}
variable (hwatch : ∀ c passed, pairing.Same (watch c passed) (watch' c passed))

include hwatch

theorem same_resolve_serve {serve : Serve} (hserve : ∀ what ∈ serve.mentions, what ∈ scope) :
    pairing.Same (serve.resolve h watch t) (serve.resolve h' watch' t') := by
  cases serve with
  | variation id => exact same_pure _
  | distribution d =>
    exact (hwatch _ _).bind fun _ => same_report hplaces ht (hserve _ (List.mem_singleton_self _))

variable {f : Flag} (hf : ∀ what ∈ f.mentions, what ∈ scope)

include hf

theorem same_serveDefault :
    pairing.Same (f.serveDefault h watch t) (f.serveDefault h' watch' t') :=
  (hwatch _ _).bind fun _ => same_resolve_serve hplaces ht hwatch fun what hwhat =>
    hf what (f.mem_mentions_of_default hwhat)

theorem same_serveByRules :
    pairing.Same (f.serveByRules h budget watch t) (f.serveByRules h' budget watch' t') := by
  have hrules : ∀ rule ∈ f.rulesInOrder, ∀ what ∈ rule.mentions, what ∈ scope :=
    fun rule hrule what hwhat =>
      hf what (f.mem_mentions_of_rule (Flag.mem_rulesInOrder.mp hrule) hwhat)
  unfold Flag.serveByRules
  refine pairing.bind (alike_findMatching hplaces ht budget hrules) fun rule hrule => ?_
  refine (hwatch _ _).bind fun _ => ?_
  -- what follows the report of a rule is the same whether there is one to report or not
  extract_lets rest rest'
  have hrest (u : PUnit) : pairing.Same (rest u) (rest' u) := by
    cases rule with
    | none => exact same_serveDefault hplaces ht hwatch hf
    | some rule =>
      refine (same_resolve_serve hplaces ht hwatch fun what hwhat =>
        hrule rule rfl what (rule.mem_mentions_of_serve hwhat)).bind fun served => ?_
      cases served with
      | some id => exact same_pure (some id)
      | none => exact same_serveDefault hplaces ht hwatch hf
  exact alike_ite ((hwatch _ _).bind hrest) (hrest ())

theorem same_serveOn :
    pairing.Same (f.serveOn h budget watch t) (f.serveOn h' budget watch' t') := by
  have hentries : ∀ entry ∈ f.variationToTargetMap, ∀ id ∈ entry.targetSegments,
      .segment id ∈ scope := fun entry hentry id hid =>
    hf _ (f.segment_mem_mentions hentry hid)
  unfold Flag.serveOn
  rw [ht.identifier]
  refine alike_ite (same_serveDefault hplaces ht hwatch hf) ?_
  refine (same_findMapped hplaces ht budget hentries).bind fun mapped =>
    (hwatch _ _).bind fun _ => ?_
  extract_lets rest rest'
  have hrest (u : PUnit) : pairing.Same (rest u) (rest' u) := by
    cases mapped with
    | some id => exact same_pure (some id)
    | none => exact same_serveByRules hplaces ht budget hwatch hf
  exact alike_ite ((hwatch _ _).bind hrest) (hrest ())

/-- **What a flag serves by itself** is the same if what it mentions is. -/
theorem same_serveByState :
    pairing.Same (f.serveByState h budget watch t) (f.serveByState h' budget watch' t') :=
  (hwatch _ _).bind fun _ =>
    alike_ite (same_serveOn hplaces ht budget hwatch hf) (same_pure _)

omit hwatch in
/-- **Whether its prerequisites are met** is, too. -/
theorem same_prerequisitesMetWithin (levels : Nat) (path : List String) :
    pairing.Same (f.prerequisitesMetWithin h budget t levels path)
      (f.prerequisitesMetWithin h' budget t' levels path) := by
  induction levels generalizing path f with
  | zero => exact same_pure false
  | succ levels ih =>
    unfold Flag.prerequisitesMetWithin
    refine same_allM _ fun p hp => alike_ite ((hplaces.log _ _).bind fun _ => same_pure false) ?_
    refine pairing.bind (hplaces.flag? p.feature (hf _ (f.flag_mem_mentions hp))) ?_
    intro found hfound
    cases found with
    | none => exact (hplaces.log _ _).bind fun _ => same_pure false
    | some g =>
      have hg := hfound g rfl
      have hserve (met : Bool) : pairing.Same
          (if met then Flag.accepts p <$> g.serveByState h budget Watch.none t
            else Pure.pure false)
          (if met then Flag.accepts p <$> g.serveByState h' budget Watch.none t'
            else Pure.pure false) :=
        alike_ite ((same_serveByState hplaces ht budget (fun _ _ => same_pure ()) hg).map _)
          (same_pure false)
      exact alike_ite ((same_pure true).bind hserve) ((ih hg _).bind hserve)

theorem same_resolve :
    pairing.Same (f.resolve h budget watch t) (f.resolve h' budget watch' t') := by
  have hserve := same_serveByState hplaces ht budget hwatch hf
  unfold Flag.resolve
  refine alike_ite hserve ?_
  refine (same_prerequisitesMetWithin hplaces ht budget hf _ _).bind fun met =>
    (hwatch _ _).bind fun _ => alike_ite hserve ?_
  exact (hplaces.log _ _).bind fun _ => same_pure _

/-- **What becomes of a flag for a target** is the same if what it mentions is. -/
theorem same_serve :
    pairing.Same (f.serve h budget watch t) (f.serve h' budget watch' t') :=
  (same_resolve hplaces ht budget hwatch hf).map f.variationOf

omit hf in
/-- **Two evaluations come to the same** if the flag that they start at is in the scope. -/
theorem same_walk {flagId : String} (hflag : .flag flagId ∈ scope) (expected : Option FlagKind) :
    pairing.Same (Evaluation.walk h budget watch flagId t expected)
      (Evaluation.walk h' budget watch' flagId t' expected) := by
  unfold Evaluation.walk
  refine pairing.bind (hplaces.flag? flagId hflag) fun found hfound => ?_
  cases found with
  | none => exact (hwatch _ _).bind fun _ => same_pure _
  | some f =>
    refine (hwatch _ _).bind fun _ => ?_
    cases Evaluation.kindFits expected f with
    | error e => exact same_pure _
    | ok u => exact (same_serve hplaces ht budget hwatch (hfound f rfl)).map _

end Pairing

end FlagReplica
