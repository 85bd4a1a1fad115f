import FlagReplica.Proofs.Sync.Tracking
import FlagReplica.Proofs.Sync.Writes
import Mathlib.Logic.Relation
/-!
# A stream and its source

The control plane with its flags, the events it has announced that are not followed yet, and a
repository that is at some stage of a stream: it waits for the pull that catches up, or for events,
or for a flag that it asked for. Between any two steps the source may change, and segments may be
written.

`Tracked` says what a table of flags and the stage have to do with the source. Each step leads from
a table that is tracked to another, and once nothing is left to do the table is the source
(`Tracked.eq_source`).
-/

namespace FlagReplica

open Relation (ReflTransGen)

/-! ## Steps -/

/-- What a stream is at. -/
inductive Stage
  /-- The stream is connected and the flags are being pulled. The list that is answered is there
  before it is stored. -/
  | pulling (answer : Option (List Flag))
  | listening
  /-- A flag has been asked for because of an event. The answer is there before it is stored. -/
  | fetching (e : PushEvent) (answer : Option (Except Error Flag))

/-- A source and a repository that follows it. -/
structure Feed where
  /-- The flags of the control plane, by identifier. -/
  source : FlagTable
  /-- The events that are not followed yet, oldest first. -/
  queue : List PushEvent
  stage : Stage
  repository : Repository
  /-- The notices given, oldest first. -/
  told : List Notice

/-- The list has each flag of the source once. -/
def Lists (source : FlagTable) (xs : List Flag) : Prop :=
  (xs.map (·.feature)).Nodup ∧ byName xs = source

theorem lists_singleton (f : Flag) :
    Lists (Function.update (fun _ => none) f.feature (some f)) [f] := by
  refine ⟨List.nodup_singleton _, ?_⟩
  funext id
  rw [byName_cons, Function.update_apply]
  exact if_congr eq_comm rfl rfl

/-- A write that has nothing to do with flags. An event about segments is followed by two of
these. -/
def SyncWrite.SparesFlags : SyncWrite → Prop
  | .segmentsPulled _ => True
  | .segmentFetched _ => True
  | .received e => e.domain ≠ .flag
  | .flushed => True
  | _ => False

namespace Feed

/-- A stream that has just connected, before anything changes. -/
def connected (source : FlagTable) (r : Repository) (told : List Notice) : Feed :=
  ⟨source, [], .pulling none, r, told⟩

/-- The feed after something was done to the repository. -/
def act {α : Type} (x : Feed) (a : RepositoryAction α) : Feed :=
  { x with
    repository := (a.run x.repository).state
    told := x.told ++ (a.run x.repository).notices }

variable {env : String}

/-- A step of a feed. An event is followed as `Repository.handleEvent` does, but in its two halves,
so that the source may change while a flag is being fetched. -/
inductive Step (env : String) (x : Feed) : Feed → Prop
  /-- The source changes, which is announced. -/
  | altered {e : PushEvent} {source : FlagTable} (h : Alters x.source e source) :
      Step env x { x with source, queue := x.queue ++ [e] }
  /-- The pull is answered with all the flags of the source as it is now. -/
  | listed {xs : List Flag} (hstage : x.stage = .pulling none) (h : Lists x.source xs) :
      Step env x { x with stage := .pulling (some xs) }
  | pulled {xs : List Flag} (hstage : x.stage = .pulling (some xs)) :
      Step env x { x.act (Repository.storePulledFlags env (.ok xs)) with stage := .listening }
  /-- The next event is followed, and nothing has to be fetched. -/
  | handled {e : PushEvent} {queue : List PushEvent} (hstage : x.stage = .listening)
      (hqueue : x.queue = e :: queue)
      (h : ((Repository.receive env e).run x.repository).value ≠ some .flag) :
      Step env x { x.act (Repository.receive env e) with queue }
  /-- The next event is followed, and a flag has to be fetched. -/
  | asked {e : PushEvent} {queue : List PushEvent} (hstage : x.stage = .listening)
      (hqueue : x.queue = e :: queue)
      (h : ((Repository.receive env e).run x.repository).value = some .flag) :
      Step env x { x.act (Repository.receive env e) with queue, stage := .fetching e none }
  /-- What was asked for is answered from the source as it is now, with an error if it is not
  there. -/
  | answered {e : PushEvent} {a : Except Error Flag} (hstage : x.stage = .fetching e none)
      (h : a.toOption = x.source e.identifier) :
      Step env x { x with stage := .fetching e (some a) }
  | stored {e : PushEvent} {a : Except Error Flag} (hstage : x.stage = .fetching e (some a)) :
      Step env x { x.act (Repository.storeFetched env a) with stage := .listening }
  | besides {w : SyncWrite} (h : w.SparesFlags) : Step env x (x.act (w.run env))

/-- Whatever a feed waits for can come, and then it listens. -/
theorem exists_listening (env : String) (x : Feed) (hlists : ∃ xs, Lists x.source xs) :
    ∃ y, ReflTransGen (Step env) x y ∧ y.stage = .listening ∧ y.queue = x.queue ∧
      y.source = x.source := by
  obtain ⟨source, queue, stage, r, told⟩ := x
  cases stage with
  | pulling answer =>
    cases answer with
    | none =>
      obtain ⟨xs, hxs⟩ := hlists
      exact ⟨_, .head (.listed rfl hxs) (.single (.pulled rfl)), rfl, rfl, rfl⟩
    | some xs => exact ⟨_, .single (.pulled rfl), rfl, rfl, rfl⟩
  | listening => exact ⟨_, .refl, rfl, rfl, rfl⟩
  | fetching e answer =>
    cases answer with
    | none =>
      obtain ⟨a, ha⟩ : ∃ a : Except Error Flag, a.toOption = source e.identifier := by
        cases source e.identifier with
        | none => exact ⟨.error .unauthorized, rfl⟩
        | some f => exact ⟨.ok f, rfl⟩
      exact ⟨_, .head (.answered rfl ha) (.single (.stored rfl)), rfl, rfl, rfl⟩
    | some a => exact ⟨_, .single (.stored rfl), rfl, rfl, rfl⟩

/-- **A feed can always be settled**: if the source has finitely many flags and stays as it is,
every event that waits can be followed. -/
theorem exists_settled (env : String) (x : Feed) (hlists : ∃ xs, Lists x.source xs) :
    ∃ y, ReflTransGen (Step env) x y ∧ y.stage = .listening ∧ y.queue = [] ∧
      y.source = x.source := by
  generalize hqueue : x.queue = queue
  induction queue generalizing x with
  | nil =>
    obtain ⟨y, hrun, hstage, hwaiting, hsource⟩ := exists_listening env x hlists
    exact ⟨y, hrun, hstage, hwaiting.trans hqueue, hsource⟩
  | cons e queue ih =>
    obtain ⟨y, hrun, hstage, hwaiting, hsource⟩ := exists_listening env x hlists
    have hhead : y.queue = e :: queue := hwaiting.trans hqueue
    -- either way the event is off the queue after one step
    obtain ⟨z, hstep, hrest, hkept⟩ :
        ∃ z, Step env y z ∧ z.queue = queue ∧ z.source = y.source := by
      by_cases hvalue : ((Repository.receive env e).run y.repository).value = some .flag
      · exact ⟨_, .asked hstage hhead hvalue, rfl, rfl⟩
      · exact ⟨_, .handled hstage hhead hvalue, rfl, rfl⟩
    have hsame : z.source = x.source := hkept.trans hsource
    obtain ⟨w, hlast, hsettled⟩ := ih z (hsame ▸ hlists) hrest
    rw [hsame] at hsettled
    exact ⟨w, (hrun.tail hstep).trans hlast, hsettled⟩

end Feed

/-! ## Tracked tables -/

namespace Stage

/-- The event that is being followed, if there is one. -/
def inFlight : Stage → List PushEvent
  | .fetching e _ => [e]
  | _ => []

/-- Whether the stream has caught up. -/
def Live : Stage → Prop
  | .pulling _ => False
  | _ => True

end Stage

/-- What is held, the list that is to be stored, and the flag that is to be stored, each keep track
of the source. -/
structure Tracked (source : FlagTable) (queue : List PushEvent) (stage : Stage) (t : FlagTable) :
    Prop where
  keyed : source.Keyed
  announced : Announced source (stage.inFlight ++ queue)
  held : stage.Live → ∀ id, Tracks source (stage.inFlight ++ queue) id (t id)
  pulled : ∀ xs, stage = .pulling (some xs) →
    (xs.map (·.feature)).Nodup ∧ ∀ id, Tracks source queue id (byName xs id)
  asked : ∀ e a, stage = .fetching e a → e.event ≠ .delete
  answered : ∀ e a, stage = .fetching e (some a) →
    Tracks source queue e.identifier a.toOption ∧ ∀ f, a = .ok f → f.feature = e.identifier

namespace Tracked

variable {source source' : FlagTable} {queue : List PushEvent} {stage : Stage} {t : FlagTable}
  {e : PushEvent} {xs : List Flag}

theorem connected (hs : source.Keyed) (t : FlagTable) : Tracked source [] (.pulling none) t where
  keyed := hs
  announced := trivial
  held hlive := hlive.elim
  pulled _ h := by cases h
  asked _ _ h := by cases h
  answered _ _ h := by cases h

theorem altered (h : Tracked source queue stage t) (ha : Alters source e source') :
    Tracked source' (queue ++ [e]) stage t where
  keyed := ha.keyed h.keyed
  announced := by
    rw [← List.append_assoc]
    exact h.announced.alter ha
  held hlive id := by
    rw [← List.append_assoc]
    exact (h.held hlive id).alter ha
  pulled xs hxs := by
    obtain ⟨hnodup, htracks⟩ := h.pulled xs hxs
    exact ⟨hnodup, fun id => (htracks id).alter ha⟩
  asked := h.asked
  answered e a hstage := by
    obtain ⟨htracks, hname⟩ := h.answered e a hstage
    exact ⟨htracks.alter ha, hname⟩

theorem listed (h : Tracked source queue (.pulling none) t) (hxs : Lists source xs) :
    Tracked source queue (.pulling (some xs)) t where
  keyed := h.keyed
  announced := h.announced
  held hlive := hlive.elim
  pulled _ hstage := by
    cases hstage
    exact ⟨hxs.1, fun id => .same (congrFun hxs.2 id)⟩
  asked _ _ hstage := by cases hstage
  answered _ _ hstage := by cases hstage

/-- The table that a stage without anything in flight needs. -/
theorem listening (hs : source.Keyed) (hq : Announced source queue)
    (ht : ∀ id, Tracks source queue id (t id)) : Tracked source queue .listening t where
  keyed := hs
  announced := hq
  held _ := ht
  pulled _ hstage := by cases hstage
  asked _ _ hstage := by cases hstage
  answered _ _ hstage := by cases hstage

theorem stored_list (h : Tracked source queue (.pulling (some xs)) t) :
    Tracked source queue .listening (byName xs) :=
  .listening h.keyed h.announced (h.pulled xs rfl).2

/-- An event is followed once what is held of its flag tracks the source without it. What is held
of other flags never needed it. -/
theorem followed {t' : FlagTable} (hs : source.Keyed) (hq : Announced source (e :: queue))
    (ht : ∀ id, Tracks source (e :: queue) id (t id))
    (hother : ∀ id, id ≠ e.identifier → t' id = t id)
    (hone : Tracks source queue e.identifier (t' e.identifier)) :
    Tracked source queue .listening t' := by
  refine .listening hs hq.2.2 fun id => ?_
  by_cases hid : id = e.identifier
  · rw [hid]
    exact hone
  · rw [hother id hid]
    exact (ht id).of_cons_of_ne (Ne.symm hid)

/-- **A deletion** is followed at once. -/
theorem deleted (h : Tracked source (e :: queue) .listening t) (hevent : e.event = .delete) :
    Tracked source queue .listening (Function.update t e.identifier none) := by
  refine followed h.keyed h.announced (h.held trivial)
    (fun _ hid => Function.update_of_ne hid _ _) ?_
  rw [Function.update_self]
  exact tracks_deleted h.announced hevent

/-- **A version that is known** is not followed up. -/
theorem known (h : Tracked source (e :: queue) .listening t) (hevent : e.event ≠ .delete)
    (hknown : Repository.isKnown ((t e.identifier).map (·.version)) e) :
    Tracked source queue .listening t := by
  refine followed h.keyed h.announced (h.held trivial) (fun _ _ => rfl) ?_
  exact (h.held trivial e.identifier).known h.announced hevent hknown

/-- What has to be fetched is in flight. -/
theorem fetching (h : Tracked source (e :: queue) .listening t) (hevent : e.event ≠ .delete) :
    Tracked source queue (.fetching e none) t where
  keyed := h.keyed
  announced := h.announced
  held hlive := h.held hlive
  pulled _ hstage := by cases hstage
  asked _ _ hstage := by
    cases hstage
    exact hevent
  answered _ _ hstage := by cases hstage

theorem answer {a : Except Error Flag} (h : Tracked source queue (.fetching e none) t)
    (ha : a.toOption = source e.identifier) :
    Tracked source queue (.fetching e (some a)) t where
  keyed := h.keyed
  announced := h.announced
  held := h.held
  pulled _ hstage := by cases hstage
  asked _ _ hstage := by
    cases hstage
    exact h.asked e none rfl
  answered _ _ hstage := by
    cases hstage
    refine ⟨.same ha, ?_⟩
    rintro f rfl
    exact h.keyed _ f ha.symm

/-- **A flag that came** is accepted into the table. -/
theorem stored_flag {f : Flag} (h : Tracked source queue (.fetching e (some (.ok f))) t) :
    Tracked source queue .listening (accept t f) := by
  obtain ⟨htracks, hnamed⟩ := h.answered e (.ok f) rfl
  have hname : f.feature = e.identifier := hnamed f rfl
  refine followed h.keyed h.announced (h.held trivial) (fun id hid => ?_) ?_
  · exact accept_of_ne t fun hf => hid (hf.trans hname)
  · have hself : accept t f f.feature =
        if (t f.feature).any (f.version ≤ ·.version) then t f.feature else some f := accept_self t f
    rw [← hname] at htracks ⊢
    rw [hself]
    exact (h.held trivial f.feature).accepted (h.asked e _ rfl) htracks

/-- **A flag that did not come** was not there. -/
theorem stored_nothing {error : Error}
    (h : Tracked source queue (.fetching e (some (.error error))) t) :
    Tracked source queue .listening t := by
  refine followed h.keyed h.announced (h.held trivial) (fun _ _ => rfl) ?_
  exact (h.held trivial e.identifier).unanswered (h.asked e _ rfl) (h.answered e _ rfl).1

/-- **With nothing left to follow, the table is the source.** -/
theorem eq_source (h : Tracked source [] .listening t) : t = source := by
  funext id
  exact (h.held trivial id).eq_of_quiet nofun

end Tracked

end FlagReplica
