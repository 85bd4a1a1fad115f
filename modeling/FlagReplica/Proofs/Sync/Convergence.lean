import FlagReplica.Proofs.Sync.Agreement
import FlagReplica.Proofs.Sync.Feed
/-!
# Events converge on the source

A repository that has caught up once and then follows every event has, when no event is left, what
the control plane has (`Feed.converges`): each flag under its own key and in the list, and nothing
else. It does not matter how far the source ran ahead while the events were followed, nor what the
repository held before. No feed is kept from getting there (`Feed.exists_settled`).

The invariant is that the repository shows some table of flags that is tracked. Each step keeps it
(`Feed.Step.inv`).
-/

namespace FlagReplica

open Relation (ReflTransGen)
open Repository (Follows)

variable {env : String} {held : Contents} {t : FlagTable} {e : PushEvent}

/-! ## What a step does to what is shown -/

namespace Contents

theorem keeps_of_sparesFlags {w : SyncWrite} (h : w.SparesFlags) :
    Keeps (Repository.keysOf Flag) (w.runOnContents env) := by
  cases w with
  | flagsPulled answer => exact h.elim
  | segmentsPulled answer => exact (keeps_storePulled segment_notMem_flag env _ answer).map _
  | received e =>
    obtain ⟨domain, event, id, v⟩ := e
    refine Keeps.map _ ((Keeps.log _ _).bind fun _ => ?_)
    cases domain with
    | flag => exact absurd rfl h
    | segment =>
      cases event with
      | delete =>
        exact (keeps_deleteAnnounced segment_notMem_flag env _).bind fun _ => .pure none
      | create => exact .read fun _ => .pure _
      | update => exact .read fun _ => .pure _
    | unknown => cases event <;> exact .pure none
  | flagFetched answer => exact h.elim
  | segmentFetched answer => exact keeps_storeFetched segment_notMem_flag env answer
  | followed e flag segment => exact h.elim
  | flushed => exact .pure ()

namespace Shows

theorem mustFetch_eq (h : Shows env t held) (e : PushEvent) :
    held.mustFetch Flag e = !Repository.isKnown ((t e.identifier).map (·.version)) e := by
  rw [mustFetch, h.find?_eq]
  rfl

/-- **A deletion** that is received is followed at once. -/
theorem receive_delete (h : Shows env t held) (hdomain : e.domain = .flag)
    (hevent : e.event = .delete) :
    ((receive env e).run held).value = none ∧
      Shows env (Function.update t e.identifier none) ((receive env e).run held).state := by
  obtain ⟨domain, event, id, v⟩ := e
  cases hdomain
  cases hevent
  exact ⟨rfl, h.deleteAndRemove id⟩

/-- **Anything else** that is received changes nothing, and is known or has to be fetched. -/
theorem receive_other (h : Shows env t held) (hdomain : e.domain = .flag)
    (hevent : e.event ≠ .delete) :
    ((receive env e).run held).value =
        (if Repository.isKnown ((t e.identifier).map (·.version)) e then none else some .flag) ∧
      Shows env t ((receive env e).run held).state := by
  have hrun : ((receive env e).run held).value =
      (if held.mustFetch Flag e then some .flag else none) ∧
      ((receive env e).run held).state = held := by
    obtain ⟨domain, event, id, v⟩ := e
    cases hdomain
    cases event with
    | delete => exact absurd rfl hevent
    | create => exact ⟨rfl, rfl⟩
    | update => exact ⟨rfl, rfl⟩
  rw [hrun.1, hrun.2, h.mustFetch_eq]
  refine ⟨?_, h⟩
  cases Repository.isKnown ((t e.identifier).map (·.version)) e <;> rfl

end Shows

end Contents

/-! ## The invariant -/

namespace Feed

variable {room : Finset String} {x y : Feed}

/-- The repository is faithful and shows a table that is tracked. -/
structure Inv (room : Finset String) (env : String) (x : Feed) : Prop where
  faithful : x.repository.Faithful room
  tracked : ∃ t : FlagTable,
    Contents.Shows env t x.repository.stored? ∧ Tracked x.source x.queue x.stage t

/-- What was told is not taken back. -/
theorem Step.keysWritten_subset (h : Step env x y) : keysWritten x.told ⊆ keysWritten y.told := by
  have hact : ∀ {α : Type} (a : RepositoryAction α),
      keysWritten x.told ⊆ keysWritten (x.act a).told := by
    intro α a
    rw [act, keysWritten_append]
    exact Finset.subset_union_left
  cases h with
  | altered h => exact subset_rfl
  | listed hstage h => exact subset_rfl
  | answered hstage h => exact subset_rfl
  | pulled hstage => exact hact _
  | handled hstage hqueue h => exact hact _
  | asked hstage hqueue h => exact hact _
  | stored hstage => exact hact _
  | besides h => exact hact _

/-- An action on the repository comes to what its action on contents comes to. -/
theorem Inv.act {α : Type} {a : RepositoryAction α} {b : ContentsAction α} (hx : x.Inv room env)
    (hroom : keysWritten (x.act a).told ⊆ room) (h : Follows room a b) :
    (a.run x.repository).value = (b.run x.repository.stored?).value ∧
      (x.act a).repository.stored? = (b.run x.repository.stored?).state ∧
      (x.act a).repository.Faithful room := by
  rw [Feed.act, keysWritten_append, Finset.union_subset_iff] at hroom
  exact h.run_eq hx.faithful hroom.2

/-- **A step keeps the invariant.** -/
theorem Step.inv (h : Step env x y) (hx : x.Inv room env) (hroom : keysWritten y.told ⊆ room) :
    y.Inv room env := by
  obtain ⟨t, hshows, htracked⟩ := hx.tracked
  cases h with
  | altered h => exact ⟨hx.faithful, t, hshows, htracked.altered h⟩
  | listed hstage h =>
    rw [hstage] at htracked
    exact ⟨hx.faithful, t, hshows, htracked.listed h⟩
  | @pulled xs hstage =>
    rw [hstage] at htracked
    obtain ⟨-, hstored, hfaithful⟩ :=
      hx.act hroom (Repository.follows_storePulled env "flags" (.ok xs))
    refine ⟨hfaithful, byName xs, ?_, htracked.stored_list⟩
    exact hstored ▸ hshows.setAll (htracked.pulled xs rfl).1
  | @handled e queue hstage hqueue h =>
    rw [hstage, hqueue] at htracked
    obtain ⟨hvalue, hstored, hfaithful⟩ := hx.act hroom (Repository.follows_receive env e)
    rw [hvalue] at h
    have hdomain := htracked.announced.1
    -- nothing has to be fetched for a deletion, nor for a version that is known
    by_cases hevent : e.event = .delete
    · have hreceive := hshows.receive_delete hdomain hevent
      exact ⟨hfaithful, _, hstored ▸ hreceive.2, hstage ▸ htracked.deleted hevent⟩
    · have hreceive := hshows.receive_other hdomain hevent
      refine ⟨hfaithful, t, hstored ▸ hreceive.2, hstage ▸ htracked.known hevent ?_⟩
      by_contra hknown
      rw [hreceive.1, if_neg hknown] at h
      exact h rfl
  | @asked e queue hstage hqueue h =>
    rw [hstage, hqueue] at htracked
    obtain ⟨hvalue, hstored, hfaithful⟩ := hx.act hroom (Repository.follows_receive env e)
    rw [h] at hvalue
    have hdomain := htracked.announced.1
    have hevent : e.event ≠ .delete := by
      intro hdelete
      rw [(hshows.receive_delete hdomain hdelete).1] at hvalue
      cases hvalue
    have hreceive := hshows.receive_other hdomain hevent
    exact ⟨hfaithful, t, hstored ▸ hreceive.2, htracked.fetching hevent⟩
  | answered hstage h =>
    rw [hstage] at htracked
    exact ⟨hx.faithful, t, hshows, htracked.answer h⟩
  | @stored e a hstage =>
    rw [hstage] at htracked
    obtain ⟨-, hstored, hfaithful⟩ := hx.act hroom (Repository.follows_storeFetched env a)
    cases a with
    | ok f => exact ⟨hfaithful, _, hstored ▸ hshows.setAndMerge f, htracked.stored_flag⟩
    | error error => exact ⟨hfaithful, t, hstored ▸ hshows, htracked.stored_nothing⟩
  | @besides w h =>
    rw [act, keysWritten_append, Finset.union_subset_iff] at hroom
    obtain ⟨hstored, hfaithful⟩ := w.run_eq env hx.faithful hroom.2
    refine ⟨hfaithful, t, ?_, htracked⟩
    exact hstored.symm ▸ hshows.of_keeps (Contents.keeps_of_sparesFlags h)

/-- **A run keeps the invariant.** -/
theorem inv_of_run (h : ReflTransGen (Step env) x y) (hx : x.Inv room env)
    (hroom : keysWritten y.told ⊆ room) : y.Inv room env := by
  induction h with
  | refl => exact hx
  | tail _ hstep ih => exact hstep.inv (ih (hstep.keysWritten_subset.trans hroom)) hroom

theorem keysWritten_subset_of_run (h : ReflTransGen (Step env) x y) :
    keysWritten x.told ⊆ keysWritten y.told := by
  induction h with
  | refl => exact subset_rfl
  | tail _ hstep ih => exact ih.trans hstep.keysWritten_subset

/-- **A stream starts with the invariant**, whatever synchronization did to the repository before
it. -/
theorem inv_connected {r : Repository} {ws : List SyncWrite} {source : FlagTable}
    (hr : r.Faithful room) (hnothing : r.stored? = Contents.nothing)
    (hnames : ∀ w ∈ ws, w.NamesOnce) (hsource : source.Keyed)
    (hroom : keysWritten ((SyncWrite.runAll env ws).run r).notices ⊆ room) :
    (connected source ((SyncWrite.runAll env ws).run r).state
      ((SyncWrite.runAll env ws).run r).notices).Inv room env := by
  obtain ⟨hstored, hfaithful⟩ := SyncWrite.runAll_eq env ws hr hroom
  obtain ⟨⟨t, hshows⟩, -⟩ :=
    SyncWrite.maintains_runAll hnames Contents.nothing (Contents.inAgreement_nothing env)
  rw [hnothing] at hstored
  exact ⟨hfaithful, t, hstored ▸ hshows, .connected hsource t⟩

/-- **Events converge on the source.** Let synchronization have done anything to a new repository,
over a store of its own or with room for all the keys that are written. Let then a stream connect,
catch up by a pull, and follow every event that was announced since, while the source changes at
any time. Once no event is left, every flag is found exactly as the source has it, and the list of
the environment has each flag of the source once and nothing else. -/
theorem converges (env : String) (r : Repository) (ws : List SyncWrite) (source : FlagTable)
    (x : Feed) (hr : r.Fresh) (hnames : ∀ w ∈ ws, w.NamesOnce) (hsource : source.Keyed)
    (hrun : ReflTransGen (Step env)
      (connected source ((SyncWrite.runAll env ws).run r).state
        ((SyncWrite.runAll env ws).run r).notices) x)
    (hroom : r.HasRoom x.told) (hstage : x.stage = .listening) (hqueue : x.queue = []) :
    (∀ id, ((Repository.getFlag id).run x.repository).value = x.source id) ∧
      (((Repository.getFlags env).run x.repository).value.map (·.feature)).Nodup ∧
      ∀ f, f ∈ ((Repository.getFlags env).run x.repository).value ↔
        x.source f.feature = some f := by
  have hstart := inv_connected (hr.faithful hroom) hr.stored?_eq hnames hsource
    (keysWritten_subset_of_run hrun)
  obtain ⟨hfaithful, t, hshows, htracked⟩ := inv_of_run hrun hstart subset_rfl
  rw [hstage, hqueue] at htracked
  have ht : t = x.source := htracked.eq_source
  have hone : ∀ id, ((Repository.getFlag id).run x.repository).value = t id := fun id =>
    (hfaithful.value_get id).trans (hshows.find?_eq id)
  have hlist : ((Repository.getFlags env).run x.repository).value =
      Contents.listed x.repository.stored? env := hfaithful.value_getAll env
  rw [hlist]
  refine ⟨fun id => ht ▸ hone id, hshows.nodup, fun f => ?_⟩
  rw [← ht, ← hshows.mem_listed_iff]
  exact ⟨fun hf => ⟨hf, rfl⟩, fun hf => hf.1⟩

/-! A flag that is pulled is deleted and comes back with a lower version, before the list with it is
stored. -/

namespace Restart

open SyncWrite (flagAt)

/-- What was done before. -/
def writes : List SyncWrite := [.flagsPulled (.ok [flagAt "b" 7])]

/-- The source when the stream connects. -/
def early : FlagTable := Function.update (fun _ => none) "a" (some (flagAt "a" 5))

/-- The source when the pulled list is stored. -/
def late : FlagTable :=
  Function.update (Function.update early "a" none) "a" (some (flagAt "a" 1))

def deletion : PushEvent := ⟨.flag, .delete, "a", 0⟩

def creation : PushEvent := ⟨.flag, .create, "a", 1⟩

/-- The list is stored. -/
def pulled : RepositoryAction Bool := do
  SyncWrite.runAll "e" writes
  Repository.storePulledFlags "e" (.ok [flagAt "a" 5])

/-- The deletion is followed. -/
def deleted : RepositoryAction (Option EntityKind) := do
  let _ ← pulled
  Repository.receive "e" deletion

/-- The creation is looked at. -/
def asked : RepositoryAction (Option EntityKind) := do
  let _ ← deleted
  Repository.receive "e" creation

/-- The flag is stored again. -/
def restored : RepositoryAction Unit := do
  let _ ← asked
  Repository.storeFetched "e" (.ok (flagAt "a" 1))

/-- A feed after some things were done to a new repository. -/
def scene {α : Type} (source : FlagTable) (queue : List PushEvent) (stage : Stage)
    (done : RepositoryAction α) : Feed :=
  ⟨source, queue, stage, (done.run (.empty 3)).state, (done.run (.empty 3)).notices⟩

/-- The stream as it connects. -/
def start : Feed := scene early [] (.pulling none) (SyncWrite.runAll "e" writes)

/-- The stream when the list has been answered. -/
def listed (source : FlagTable) (queue : List PushEvent) : Feed :=
  scene source queue (.pulling (some [flagAt "a" 5])) (SyncWrite.runAll "e" writes)

/-- The stream when every event is followed. -/
def finish : Feed := scene late [] .listening restored

theorem run : ReflTransGen (Step "e") start finish := by
  have hlisted : Step "e" start (listed early []) := .listed rfl (lists_singleton (flagAt "a" 5))
  have hdeletion : Step "e" (listed early [])
      (listed (Function.update early "a" none) [deletion]) := .altered (.delete "a" 0)
  have hcreation : Step "e" (listed (Function.update early "a" none) [deletion])
      (listed late [deletion, creation]) :=
    .altered (.put (flagAt "a" 1) .create nofun (by simp [listed, scene, flagAt]))
  have hpulled : Step "e" (listed late [deletion, creation])
      (scene late [deletion, creation] .listening pulled) := .pulled rfl
  have hdeleted : Step "e" (scene late [deletion, creation] .listening pulled)
      (scene late [creation] .listening deleted) := .handled rfl rfl (by decide +kernel)
  have hasked : Step "e" (scene late [creation] .listening deleted)
      (scene late [] (.fetching creation none) asked) := .asked rfl rfl (by decide +kernel)
  have hanswered : Step "e" (scene late [] (.fetching creation none) asked)
      (scene late [] (.fetching creation (some (.ok (flagAt "a" 1)))) asked) := .answered rfl rfl
  have hrestored : Step "e"
      (scene late [] (.fetching creation (some (.ok (flagAt "a" 1)))) asked) finish := .stored rfl
  exact (((((((ReflTransGen.single hlisted).tail hdeletion).tail hcreation).tail hpulled).tail
    hdeleted).tail hasked).tail hanswered).tail hrestored

end Restart

/-- The flag that came back is found, though what was pulled is newer. -/
theorem converges_restart :
    ReflTransGen (Step "e") Restart.start Restart.finish ∧
      (Repository.empty 3).HasRoom Restart.finish.told ∧
      ((Repository.getFlag "a").run Restart.finish.repository).value =
        some (SyncWrite.flagAt "a" 1) := by
  have hnames : ∀ w ∈ Restart.writes, w.NamesOnce := by
    simp [Restart.writes, SyncWrite.NamesOnce]
  have hkeyed : Restart.early.Keyed := by
    intro id f hf
    rw [Restart.early, Function.update_apply] at hf
    split at hf
    · next hid =>
      cases hf
      exact hid.symm
    · cases hf
  have hroom : (Repository.empty 3).HasRoom Restart.finish.told := fun _ => by decide +kernel
  have h := converges "e" (.empty 3) Restart.writes Restart.early Restart.finish (.empty 3) hnames
    hkeyed Restart.run hroom rfl rfl
  exact ⟨Restart.run, hroom, h.1 "a"⟩

end Feed

end FlagReplica
