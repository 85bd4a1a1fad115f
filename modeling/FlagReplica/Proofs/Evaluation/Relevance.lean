import FlagReplica.Proofs.Evaluation.SideBySide
import FlagReplica.Proofs.Evaluation.Termination
import Mathlib.Logic.Relation
/-!
# What an evaluation depends on

An evaluation depends on what its flag mentions, and on what that mentions in turn, and on nothing
else: `Host.relevant` is what can be come to in this way, flags, segments and attributes alike.
Where two places have the same flags and segments of these, and two targets the same identifier and
the same attributes, evaluation comes to the same with the same trace (`explain_eq_of_relevant`).

The two places may allow themselves different depths. `explain_budget` carries what is known of an
evaluation that nobody watches (`Snapshot.bottomsOut`) over to one that is explained: what is deep
in it, segments and prerequisites, is asked without being watched.
-/

namespace FlagReplica

open Relation

/-! ## What is relevant -/

namespace Host

/-- What is found under an identifier mentions something. -/
def Leads (h : Host Id) : Mention → Mention → Prop
  | .flag id, what => ∃ f, (h.flag? id).run = some f ∧ what ∈ f.mentions
  | .segment id, what => ∃ g, (h.segment? id).run = some g ∧ what ∈ g.mentions
  | .attr _, _ => False

/-- What is relevant to a flag: the flag itself, and all that what is relevant mentions. -/
def relevant (h : Host Id) (flagId : String) : Set Mention :=
  {what | ReflTransGen h.Leads (.flag flagId) what}

/-- Two places have the same flags and segments in a scope. -/
structure AlikeIn (scope : Set Mention) (h h' : Host Id) : Prop where
  flag? : ∀ id, .flag id ∈ scope → (h.flag? id).run = (h'.flag? id).run
  segment? : ∀ id, .segment id ∈ scope → (h.segment? id).run = (h'.segment? id).run

theorem AlikeIn.refl (scope : Set Mention) (h : Host Id) : AlikeIn scope h h :=
  ⟨fun _ _ => rfl, fun _ _ => rfl⟩

theorem AlikeIn.mono {scope scope' : Set Mention} {h h' : Host Id} (hsame : AlikeIn scope' h h')
    (hsub : scope ⊆ scope') : AlikeIn scope h h' :=
  ⟨fun id hid => hsame.flag? id (hsub hid), fun id hid => hsame.segment? id (hsub hid)⟩

variable {h : Host Id} {flagId : String}

theorem flag_mem_relevant : .flag flagId ∈ h.relevant flagId := ReflTransGen.refl

theorem mem_relevant_of_leads {a b : Mention} (ha : a ∈ h.relevant flagId) (hab : h.Leads a b) :
    b ∈ h.relevant flagId := ReflTransGen.tail ha hab

/-- What holds the flag, and with anything what that mentions, holds all that is relevant. -/
theorem relevant_subset {scope : Set Mention} (hflag : .flag flagId ∈ scope)
    (hclosed : ∀ a ∈ scope, ∀ b, h.Leads a b → b ∈ scope) : h.relevant flagId ⊆ scope := by
  intro what hwhat
  induction hwhat with
  | refl => exact hflag
  | tail _ hab ih => exact hclosed _ ih _ hab

end Host

/-! ## Explanations as walks -/

/-- The place, for actions that keep something. -/
def Host.keep {m : Type → Type} [Monad m] (σ : Type) (h : Host m) : Host (StateT σ m) := h.lift

/-- An explanation is a walk with a recorder, and the trace that is made of what it kept. -/
theorem Evaluation.explain_eq_walk {m : Type → Type} [Monad m] [LawfulMonad m] (h : Host m)
    (budget : Budget) (flagId : String) (t : Target) (expected : Option FlagKind) :
    explain h budget flagId t expected =
      (fun p => (p.1, traceOf flagId t p.2 p.1)) <$>
        (walk (h.keep (List TraceStep)) budget recorder flagId t expected).run [] := by
  rw [← bind_pure_comp]
  rfl

section Kept

variable {σ : Type}

/-- Actions in one monad, which keep something, are alike if they are the same. -/
def Pairing.equal (σ : Type) : Pairing (StateT σ Id) (StateT σ Id) where
  Alike p a b := ∀ kept, a.run kept = b.run kept ∧ p (a.run kept).run.1
  pure hx _ := ⟨rfl, hx⟩
  bind {α β p q a b f g} hab hfg kept := by
    obtain ⟨hrun, hp⟩ := hab kept
    have hrest := hfg _ hp (a.run kept).run.2
    refine ⟨?_, hrest.2⟩
    rw [StateT.run_bind, StateT.run_bind, ← hrun]
    exact hrest.1

/-- An action that keeps something is like one that does not if it keeps what is there. -/
def Pairing.lifted (σ : Type) : Pairing (StateT σ Id) Id where
  Alike p a b := ∀ kept, (a.run kept).run = (b.run, kept) ∧ p b.run
  pure hx _ := ⟨rfl, hx⟩
  bind {α β p q a b f g} hab hfg kept := by
    obtain ⟨hrun, hp⟩ := hab kept
    obtain ⟨hrest, hq⟩ := hfg _ hp kept
    refine ⟨?_, hq⟩
    change ((f (a.run kept).run.1).run (a.run kept).run.2).run = _
    rw [hrun]
    exact hrest

/-- What is looked up in two places that have the same is alike. -/
theorem Host.AlikeIn.places {h h' : Host Id} {flagId : String}
    (hsame : AlikeIn (h.relevant flagId) h h') :
    (Pairing.equal σ).Places (h.relevant flagId) (h.keep σ) (h'.keep σ) where
  flag? id hid kept := by
    have hfound : h.flag? id = h'.flag? id := hsame.flag? id hid
    refine ⟨congrArg (fun found : Option Flag => (found, kept)) hfound, ?_⟩
    exact fun f hf what hwhat => mem_relevant_of_leads hid ⟨f, hf, hwhat⟩
  segment? id hid kept := by
    have hfound : h.segment? id = h'.segment? id := hsame.segment? id hid
    refine ⟨congrArg (fun found : Option Segment => (found, kept)) hfound, ?_⟩
    exact fun g hg what hwhat => mem_relevant_of_leads hid ⟨g, hg, hwhat⟩
  log _ _ _ := ⟨rfl, trivial⟩

theorem Host.places_lifted (h : Host Id) :
    (Pairing.lifted σ).Places Set.univ (h.keep σ) h where
  flag? _ _ _ := ⟨rfl, fun _ _ _ _ => trivial⟩
  segment? _ _ _ := ⟨rfl, fun _ _ _ _ => trivial⟩
  log _ _ _ := ⟨rfl, trivial⟩

end Kept

/-- **What is not relevant does not count**, however deep evaluation may get. -/
theorem Host.AlikeIn.explain_eq {h h' : Host Id} {flagId : String}
    (hsame : AlikeIn (h.relevant flagId) h h') {t t' : Target}
    (ht : t.AlikeIn (h.relevant flagId) t') (budget : Budget) (expected : Option FlagKind) :
    Evaluation.explain h budget flagId t expected =
      Evaluation.explain h' budget flagId t' expected := by
  have hwatch (c : Checkpoint) (passed : Bool) : (Pairing.equal (List TraceStep)).Same
      (Evaluation.recorder c passed) (Evaluation.recorder c passed) := fun _ => ⟨rfl, trivial⟩
  have hwalk := Pairing.same_walk hsame.places ht budget hwatch Host.flag_mem_relevant expected []
  rw [Evaluation.explain_eq_walk, Evaluation.explain_eq_walk, hwalk.1]
  unfold Evaluation.traceOf
  rw [ht.identifier]

namespace Snapshot

variable {s : Snapshot} {t : Target}

/-! ## More depth -/

section Budget

variable {b : Budget} (hflags : s.flagIds.card < b.flags)
variable (hsegments : s.segmentIds.card + 1 < b.segments)

include hsegments in
theorem isMember_keep_budget {σ : Type} :
    (isMember (s.host.keep σ) b t : List String → StateT σ Id Bool) =
      isMember (s.host.keep σ) s.budget t := by
  have hlifted (b : Budget) (ids : List String) :
      (Pairing.lifted σ).Same (isMember (s.host.keep σ) b t ids) (isMember s.host b t ids) :=
    Pairing.same_isMember s.host.places_lifted (.refl _ t) b fun _ _ => trivial
  refine funext fun ids => StateT.ext fun kept => ?_
  have h := (hlifted b ids kept).1
  rw [isMember_budget hsegments] at h
  exact h.trans (hlifted s.budget ids kept).1.symm

include hflags hsegments in
theorem prerequisitesMet_keep_budget {σ : Type} (f : Flag) :
    (f.prerequisitesMet (s.host.keep σ) b t : StateT σ Id Bool) =
      f.prerequisitesMet (s.host.keep σ) s.budget t := by
  have hlifted (b : Budget) : (Pairing.lifted σ).Same (f.prerequisitesMet (s.host.keep σ) b t)
      (f.prerequisitesMet s.host b t) :=
    Pairing.same_prerequisitesMetWithin s.host.places_lifted (.refl _ t) b
      (fun _ _ => trivial) _ _
  refine StateT.ext fun kept => ?_
  have h := (hlifted b kept).1
  rw [prerequisitesMet_budget hflags hsegments] at h
  exact h.trans (hlifted s.budget kept).1.symm

include hflags hsegments in
/-- **An explanation is the same with more levels**, step by step. -/
theorem explain_budget (flagId : String) (expected : Option FlagKind) :
    Evaluation.explain s.host b flagId t expected =
      Evaluation.explain s.host s.budget flagId t expected := by
  have hserve (f : Flag) := serveByState_congr (h := s.host.keep _)
    (isMember_keep_budget (t := t) hsegments) (Evaluation.recorder (m := Id)) f
  simp only [Evaluation.explain_eq_walk, Evaluation.walk, Flag.serve, Flag.resolve, hserve,
    prerequisitesMet_keep_budget hflags hsegments]

end Budget

/-- Where two snapshots are alike, so are the explanations, though each allows itself its own
depth. -/
theorem explain_eq_of_alikeIn {s' : Snapshot} {t' : Target} {flagId : String}
    (hsame : Host.AlikeIn (s.host.relevant flagId) s.host s'.host)
    (ht : t.AlikeIn (s.host.relevant flagId) t') (expected : Option FlagKind) :
    Evaluation.explain s.host s.budget flagId t expected =
      Evaluation.explain s'.host s'.budget flagId t' expected := by
  let deep : Budget := ⟨s.flagIds.card + s'.flagIds.card + 1,
    s.segmentIds.card + s'.segmentIds.card + 2⟩
  calc Evaluation.explain s.host s.budget flagId t expected
      = Evaluation.explain s.host deep flagId t expected :=
        (explain_budget (by dsimp only [deep]; omega) (by dsimp only [deep]; omega) _ _).symm
    _ = Evaluation.explain s'.host deep flagId t' expected := hsame.explain_eq ht deep expected
    _ = Evaluation.explain s'.host s'.budget flagId t' expected :=
        explain_budget (by dsimp only [deep]; omega) (by dsimp only [deep]; omega) _ _

end Snapshot

/-! ## What makes no difference -/

namespace Target.AlikeIn

variable {scope scope' : Set Mention} {t t' : Target}

theorem mono (h : t.AlikeIn scope' t') (hsub : scope ⊆ scope') : t.AlikeIn scope t' :=
  ⟨h.identifier, fun name hname => h.attribute? name (hsub hname)⟩

/-- Whether a target is anonymous is asked by nobody. -/
theorem anonymous (scope : Set Mention) (t : Target) (anonymous : Option Bool) :
    t.AlikeIn scope { t with anonymous } := ⟨rfl, fun _ _ => rfl⟩

end Target.AlikeIn

/-- An attribute that is set changes no other, built-in ones included. -/
theorem Target.attribute?_setAttribute_of_ne (t : Target) {name other : String}
    (h : other ≠ name) (value : AttributeValue) :
    (t.setAttribute name value).attribute? other = t.attribute? other := by
  have hne : (other == name) = false := beq_false_of_ne h
  have hlookup : (t.setAttribute name value).attributes.lookup other =
      t.attributes.lookup other := by
    change (t.attributes.filter (·.1 ≠ name) ++ [(name, value)]).lookup other = _
    induction t.attributes with
    | nil => rw [List.filter_nil, List.nil_append, List.lookup_cons, hne]
    | cons entry entries ih =>
      by_cases hkey : entry.1 = name
      · rw [List.filter_cons_of_neg (by simpa using hkey), ih, List.lookup_cons, hkey, hne]
      · rw [List.filter_cons_of_pos (by simpa using hkey), List.cons_append, List.lookup_cons,
          List.lookup_cons, ih]
  unfold attribute?
  rw [hlookup]
  rfl

theorem Target.AlikeIn.setAttribute {scope : Set Mention} {name : String}
    (hname : .attr name ∉ scope) (t : Target) (value : AttributeValue) :
    t.AlikeIn scope (t.setAttribute name value) where
  identifier := rfl
  attribute? other hother := by
    refine (t.attribute?_setAttribute_of_ne ?_ value).symm
    rintro rfl
    exact hname hother

namespace Snapshot

variable {scope : Set Mention}

/-- A flag that is not in the scope makes no difference there, nor a segment. -/
theorem alikeIn_cons_flag {f : Flag} (hf : .flag f.feature ∉ scope) (s : Snapshot) :
    Host.AlikeIn scope s.host ({ s with flags := f :: s.flags } : Snapshot).host where
  flag? id hid := by
    have hne : f.feature ≠ id := fun h => hf (h ▸ hid)
    exact (List.find?_cons_of_neg (by simpa using hne)).symm
  segment? _ _ := rfl

theorem alikeIn_cons_segment {g : Segment} (hg : .segment g.identifier ∉ scope) (s : Snapshot) :
    Host.AlikeIn scope s.host ({ s with segments := g :: s.segments } : Snapshot).host where
  flag? _ _ := rfl
  segment? id hid := by
    have hne : g.identifier ≠ id := fun h => hg (h ▸ hid)
    exact (List.find?_cons_of_neg (by simpa using hne)).symm

/-- What holds the flag, and with any flag or segment of a snapshot what that mentions, holds all
that is relevant. -/
theorem relevant_subset_of_closed {s : Snapshot} {flagId : String} {scope : List Mention}
    (hflag : .flag flagId ∈ scope)
    (hflags : ∀ f ∈ s.flags, .flag f.feature ∈ scope → ∀ what ∈ f.mentions, what ∈ scope)
    (hsegments : ∀ g ∈ s.segments, .segment g.identifier ∈ scope →
      ∀ what ∈ g.mentions, what ∈ scope) :
    s.host.relevant flagId ⊆ {what | what ∈ scope} := by
  refine Host.relevant_subset hflag fun a ha b hab => ?_
  cases a with
  | flag id =>
    obtain ⟨f, hf, hb⟩ := hab
    have hid : f.feature = id := by simpa using List.find?_some hf
    exact hflags f (List.mem_of_find?_eq_some hf) (hid ▸ ha) b hb
  | segment id =>
    obtain ⟨g, hg, hb⟩ := hab
    have hid : g.identifier = id := by simpa using List.find?_some hg
    exact hsegments g (List.mem_of_find?_eq_some hg) (hid ▸ ha) b hb
  | attr name => exact hab.elim

/-- **An evaluation depends on what is relevant to its flag, and on nothing else.** In any two
places that have the same flags and segments of these, and for any two targets of one identifier
with the same relevant attributes, an evaluation comes to the same result by the same steps: as
deep as it may get in any place, and in any two snapshots, each as deep as it allows itself. So
whether the target is anonymous, an attribute that is not mentioned, and a flag or a segment that
is not, make no difference. -/
theorem explain_eq_of_relevant (flagId : String) (expected : Option FlagKind) :
    (∀ (h h' : Host Id) (budget : Budget) (t t' : Target),
      Host.AlikeIn (h.relevant flagId) h h' → t.AlikeIn (h.relevant flagId) t' →
      Evaluation.explain h budget flagId t expected =
        Evaluation.explain h' budget flagId t' expected) ∧
    ∀ (s : Snapshot) (t : Target),
      (∀ (s' : Snapshot) (t' : Target), Host.AlikeIn (s.host.relevant flagId) s.host s'.host →
        t.AlikeIn (s.host.relevant flagId) t' →
        Evaluation.explain s.host s.budget flagId t expected =
          Evaluation.explain s'.host s'.budget flagId t' expected) ∧
      (∀ anonymous, Evaluation.explain s.host s.budget flagId t expected =
        Evaluation.explain s.host s.budget flagId { t with anonymous } expected) ∧
      (∀ name value, .attr name ∉ s.host.relevant flagId →
        Evaluation.explain s.host s.budget flagId t expected =
          Evaluation.explain s.host s.budget flagId (t.setAttribute name value) expected) ∧
      (∀ f : Flag, .flag f.feature ∉ s.host.relevant flagId →
        let s' : Snapshot := { s with flags := f :: s.flags }
        Evaluation.explain s.host s.budget flagId t expected =
          Evaluation.explain s'.host s'.budget flagId t expected) ∧
      ∀ g : Segment, .segment g.identifier ∉ s.host.relevant flagId →
        let s' : Snapshot := { s with segments := g :: s.segments }
        Evaluation.explain s.host s.budget flagId t expected =
          Evaluation.explain s'.host s'.budget flagId t expected := by
  refine ⟨fun h h' budget t t' hsame ht => hsame.explain_eq ht budget expected, fun s t => ?_⟩
  have hplaces := Host.AlikeIn.refl (s.host.relevant flagId) s.host
  have htargets := Target.AlikeIn.refl (s.host.relevant flagId) t
  refine ⟨fun s' t' hsame ht => explain_eq_of_alikeIn hsame ht expected, ?_, ?_, ?_, ?_⟩
  · exact fun anonymous => explain_eq_of_alikeIn hplaces (.anonymous _ t anonymous) expected
  · exact fun name value hname =>
      explain_eq_of_alikeIn hplaces (.setAttribute hname t value) expected
  · exact fun f hf => explain_eq_of_alikeIn (alikeIn_cons_flag hf s) htargets expected
  · exact fun g hg => explain_eq_of_alikeIn (alikeIn_cons_segment hg s) htargets expected

/-- A flag that requires another, asks for a plan and for a segment, and deals by region. -/
def offer : Flag :=
  { plainFlag "offer" ["base"] with
    rules := [⟨none, 1, [⟨none, "plan", .oneOf, ["pro"], false⟩,
      ⟨none, "", .segmentMatch, ["testers"], false⟩],
      .distribution ⟨"region", [⟨"yes", 100⟩]⟩⟩] }

/-- The targets with an address at home. -/
def testers : Segment :=
  ⟨"testers", none, [], [], [⟨none, "email", .endsWith, ["@home"], false⟩], 1⟩

/-- What the offer needs. -/
def shop : Snapshot := ⟨[offer, plainFlag "base" []], [testers]⟩

/-- What the offer needs, in another order and among other things. -/
def mall : Snapshot :=
  ⟨[plainFlag "base" [], plainFlag "left" ["right"], offer],
    [⟨"staff", none, [], [], [], 1⟩, testers]⟩

/-- A target of which just what the offer asks for is known. -/
def guest : Target :=
  ⟨"ann", none, none, [("plan", .text "pro"), ("email", .text "ann@home")]⟩

/-- The same target, of which more is known. -/
def member : Target :=
  ⟨"ann", some "Ann", some true,
    [("shoe", .text "42"), ("email", .text "ann@home"), ("plan", .text "pro")]⟩

/-- All that is relevant to the offer. -/
def offerScope : List Mention := [.flag "offer", .flag "base", .segment "testers",
  .attr "plan", .attr "email", .attr "region"]

theorem relevant_offer_subset : shop.host.relevant "offer" ⊆ {what | what ∈ offerScope} :=
  relevant_subset_of_closed (by decide) (by decide) (by decide)

theorem explain_eq_of_relevant_mall :
    Host.AlikeIn (shop.host.relevant "offer") shop.host mall.host ∧
      guest.AlikeIn (shop.host.relevant "offer") member ∧
      Evaluation.explain shop.host shop.budget "offer" guest none =
        Evaluation.explain mall.host mall.budget "offer" member none ∧
      (Evaluation.explain mall.host mall.budget "offer" member none).run.1.map
        (·.2.identifier) = .ok "yes" := by
  have hplaces : Host.AlikeIn {what | what ∈ offerScope} shop.host mall.host :=
    ⟨by simp [offerScope]; decide, by simp [offerScope]; decide⟩
  have htargets : guest.AlikeIn {what | what ∈ offerScope} member :=
    ⟨rfl, by simp [offerScope]; decide⟩
  have h := ((explain_eq_of_relevant "offer" none).2 shop guest).1 mall member
    (hplaces.mono relevant_offer_subset) (htargets.mono relevant_offer_subset)
  exact ⟨hplaces.mono relevant_offer_subset, htargets.mono relevant_offer_subset, h, by
    decide +kernel⟩

end Snapshot

end FlagReplica
