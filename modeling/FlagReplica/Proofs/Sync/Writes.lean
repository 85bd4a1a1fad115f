import FlagReplica.Proofs.Repository.Refinement
import FlagReplica.Sync.Apply
/-!
# What synchronization does to the contents

The writes of synchronization on contents alone, and that a repository follows them. A write to a
faithful repository never fails, so the only failures left are those of the control plane, which
leave a line in the log and nothing else.

`SyncWrite` is one of these writes as data. A run of them in any order over-approximates what the
synchronizer does to its repository, whichever of its activities takes the next step.
-/

namespace FlagReplica

open Record (identifier version)

namespace Contents

variable {α : Type} [Record α]

/-- Stores a list that was pulled, if it was, and says whether that went well. -/
def storePulled (env what : String) (answer : Except Error (List α)) : ContentsAction Bool :=
  match answer with
  | .ok xs => do
    setAll env xs true
    return true
  | .error e => do
    log .warn ("failed to pull " ++ what ++ ": " ++ e.message)
    return false

/-- Deletes what an event says was deleted. -/
def deleteAnnounced (α : Type) [Record α] (env : String) (e : PushEvent) :
    ContentsAction Unit := do
  deleteOne α e.identifier
  removeFrom α env e.identifier

/-- Whether what an event announces has to be fetched. -/
def mustFetch (α : Type) [Record α] (held : Contents) (e : PushEvent) : Bool :=
  !Repository.isKnown ((held.find? e.identifier : Option α).map version) e

/-- Follows an event as far as that goes without asking, and says what has to be asked for. -/
def receive (env : String) (e : PushEvent) : ContentsAction (Option EntityKind) := do
  log .debug ("received " ++ e.domain.label ++ " " ++ e.event.label ++ " event")
  match e.domain, e.event with
  | .flag, .delete =>
    deleteAnnounced Flag env e
    return none
  | .segment, .delete =>
    deleteAnnounced Segment env e
    return none
  | .flag, _ => return if mustFetch Flag (← Action.get) e then some .flag else none
  | .segment, _ => return if mustFetch Segment (← Action.get) e then some .segment else none
  | .unknown, _ => return none

/-- Stores what was fetched because an event announced it, if it was. -/
def storeFetched (env : String) (answer : Except Error α) : ContentsAction Unit :=
  match answer with
  | .ok x => do
    setOne x false
    merge env x
  | .error e => log .warn ("failed to apply stream event: " ++ e.message)

/-- Follows an event to the end, given the answers to what may be asked. -/
def handleEvent (env : String) (e : PushEvent) (flag : Except Error Flag)
    (segment : Except Error Segment) : ContentsAction Unit := do
  match ← receive env e with
  | some .flag => storeFetched env flag
  | some .segment => storeFetched env segment
  | none => return ()

end Contents

namespace Repository

variable {α β : Type} {room : Finset String}

/-- What is done with the result of a write is what is done with a success. -/
theorem FollowsWrite.run_bind {a : RepositoryWrite α} {b : ContentsAction α}
    {f : Except Error α → RepositoryAction β} {g : α → ContentsAction β}
    (ha : FollowsWrite room a b) (hf : ∀ x, Follows room (f (.ok x)) (g x)) :
    Follows room (ExceptT.run a >>= f) (b >>= g) := by
  intro r hr hw
  rw [Action.run_bind, keysWritten_append, Finset.union_subset_iff] at hw
  obtain ⟨hab, hr'⟩ := ha r hr hw.1
  rw [Action.run_map] at hab
  have hvalue : ((ExceptT.run a).run r).value = .ok (b.run r.stored?).value :=
    congrArg (fun o => o.value) hab
  have hstate : ((ExceptT.run a).run r).state.stored? = (b.run r.stored?).state :=
    congrArg (fun o => o.state) hab
  have hnotices : ((ExceptT.run a).run r).notices = (b.run r.stored?).notices :=
    congrArg (fun o => o.notices) hab
  rw [hvalue] at hw
  obtain ⟨hfg, hr''⟩ := hf (b.run r.stored?).value _ hr' hw.2
  rw [hstate] at hfg
  rw [Action.run_bind, Action.run_bind, hvalue, ← hfg]
  exact ⟨by simp [Outcome.seen, hnotices], hr''⟩

variable [Record α]

theorem follows_storePulled (env what : String) (answer : Except Error (List α)) :
    Follows room (storePulled env what answer) (Contents.storePulled env what answer) := by
  cases answer with
  | ok xs => exact (followsWrite_setAll env xs true).run_bind fun _ => .pure true
  | error e =>
    rw [storePulled, pure_bind]
    exact (Follows.notify _).bind fun _ => .pure false

theorem follows_deleteAnnounced (env : String) (e : PushEvent) :
    FollowsWrite room (deleteAnnounced α env e) (Contents.deleteAnnounced α env e) :=
  (followsWrite_deleteOne _).bind fun _ => followsWrite_removeFrom _ _

theorem follows_mustFetch (e : PushEvent) :
    Follows room (mustFetch α e) ((fun held => held.mustFetch α e) <$> Action.get) := by
  have hget : Follows room (get e.identifier : RepositoryAction (Option α)) _ :=
    follows_get e.identifier
  have h := hget.map fun cached => !isKnown (cached.map Record.version) e
  rw [← comp_map] at h
  rw [mustFetch, bind_pure_comp]
  exact h

theorem follows_storeFetched (env : String) (answer : Except Error α) :
    Follows room (storeFetched env answer) (Contents.storeFetched env answer) := by
  cases answer with
  | ok x =>
    have h : FollowsWrite room (setAndMerge env x) (do
        Contents.setOne x false
        Contents.merge env x) :=
      (followsWrite_setOne x false).bind fun _ => followsWrite_merge env x
    have hreport := h.run_bind (f := reportFailure) (g := pure) fun _ => .pure ()
    rwa [bind_pure] at hreport
  | error e =>
    rw [storeFetched, pure_bind]
    exact .notify _

/-- An announced deletion leaves nothing to ask for. -/
theorem follows_deletion (env : String) (e : PushEvent) :
    Follows room
      (do reportFailure (← (deleteAnnounced α env e).run); return (none : Option EntityKind))
      (do Contents.deleteAnnounced α env e; return none) :=
  (follows_deleteAnnounced env e).run_bind fun _ => .pure none

/-- Anything else that is announced may have to be asked for. -/
theorem follows_announcement (kind : EntityKind) (e : PushEvent) :
    Follows room (do return if ← mustFetch α e then some kind else none)
      (do return if Contents.mustFetch α (← Action.get) e then some kind else none) := by
  have hmust : Follows room (mustFetch α e) _ := follows_mustFetch e
  have h := hmust.map fun b => if b then some kind else none
  rwa [← comp_map] at h

theorem follows_receive (env : String) (e : PushEvent) :
    Follows room (receive env e) (Contents.receive env e) := by
  obtain ⟨domain, event, id, v⟩ := e
  refine (Follows.notify _).bind fun _ => ?_
  cases domain with
  | flag =>
    cases event with
    | delete => exact follows_deletion env _
    | create => exact follows_announcement .flag _
    | update => exact follows_announcement .flag _
  | segment =>
    cases event with
    | delete => exact follows_deletion env _
    | create => exact follows_announcement .segment _
    | update => exact follows_announcement .segment _
  | unknown => cases event <;> exact .pure none

theorem follows_handleEvent (env : String) (e : PushEvent) (flag : Except Error Flag)
    (segment : Except Error Segment) :
    Follows room (handleEvent env e flag segment) (Contents.handleEvent env e flag segment) := by
  refine (follows_receive env e).bind fun asked => ?_
  rcases asked with _ | _ | _
  · exact .pure ()
  · exact follows_storeFetched env flag
  · exact follows_storeFetched env segment

omit [Record α] in
theorem Faithful.flush {r : Repository} (hr : r.Faithful room) :
    (Repository.flush.run r).state.stored? = r.stored? ∧
      (Repository.flush.run r).state.Faithful room := by
  have hstate : (Repository.flush.run r).state =
      ((ExceptT.run Repository.persistIfChanged).run r).state := by
    rw [Repository.flush, Action.run_bind]
    rcases ((ExceptT.run Repository.persistIfChanged).run r).value with _ | _ | _ <;> rfl
  rw [hstate]
  exact hr.persistIfChanged

end Repository

/-! ## Runs -/

/-- A write of synchronization to its repository, with the answer of the control plane if it comes
of one. -/
inductive SyncWrite
  | flagsPulled (answer : Except Error (List Flag))
  | segmentsPulled (answer : Except Error (List Segment))
  /-- An event is followed as far as that goes without asking. -/
  | received (e : PushEvent)
  | flagFetched (answer : Except Error Flag)
  | segmentFetched (answer : Except Error Segment)
  /-- An event is followed to the end. -/
  | followed (e : PushEvent) (flag : Except Error Flag) (segment : Except Error Segment)
  /-- The store is flushed. -/
  | flushed

namespace SyncWrite

/-- Does the write, in an environment. -/
def run (env : String) : SyncWrite → RepositoryAction Unit
  | .flagsPulled answer => (fun _ => ()) <$> Repository.storePulledFlags env answer
  | .segmentsPulled answer => (fun _ => ()) <$> Repository.storePulledSegments env answer
  | .received e => (fun _ => ()) <$> Repository.receive env e
  | .flagFetched answer => Repository.storeFetched env answer
  | .segmentFetched answer => Repository.storeFetched env answer
  | .followed e flag segment => Repository.handleEvent env e flag segment
  | .flushed => Repository.flush

/-- Does the write to the contents of a repository. -/
def runOnContents (env : String) : SyncWrite → ContentsAction Unit
  | .flagsPulled answer => (fun _ => ()) <$> Contents.storePulled env "flags" answer
  | .segmentsPulled answer => (fun _ => ()) <$> Contents.storePulled env "segments" answer
  | .received e => (fun _ => ()) <$> Contents.receive env e
  | .flagFetched answer => Contents.storeFetched env answer
  | .segmentFetched answer => Contents.storeFetched env answer
  | .followed e flag segment => Contents.handleEvent env e flag segment
  | .flushed => pure ()

/-- The lists that the write stores name nothing twice. -/
def NamesOnce : SyncWrite → Prop
  | .flagsPulled (.ok fs) => (fs.map (·.feature)).Nodup
  | .segmentsPulled (.ok ss) => (ss.map (·.identifier)).Nodup
  | _ => True

/-- Does some writes, one after the other. -/
def runAll (env : String) (ws : List SyncWrite) : RepositoryAction Unit := ws.forM (run env)

/-- Does some writes to the contents of a repository. -/
def runAllOnContents (env : String) (ws : List SyncWrite) : ContentsAction Unit :=
  ws.forM (runOnContents env)

variable {room : Finset String} {r : Repository}

/-- **Every write of synchronization does to a repository what it does to its contents.** Only what
a flush tells depends on more than them. -/
theorem run_eq (env : String) (w : SyncWrite) (hr : r.Faithful room)
    (hw : keysWritten ((w.run env).run r).notices ⊆ room) :
    ((w.run env).run r).state.stored? = ((w.runOnContents env).run r.stored?).state ∧
      ((w.run env).run r).state.Faithful room := by
  cases w with
  | flagsPulled answer =>
    exact (((Repository.follows_storePulled env _ answer).map _).run_eq hr hw).2
  | segmentsPulled answer =>
    exact (((Repository.follows_storePulled env _ answer).map _).run_eq hr hw).2
  | received e => exact (((Repository.follows_receive env e).map _).run_eq hr hw).2
  | flagFetched answer => exact ((Repository.follows_storeFetched env answer).run_eq hr hw).2
  | segmentFetched answer => exact ((Repository.follows_storeFetched env answer).run_eq hr hw).2
  | followed e flag segment =>
    exact ((Repository.follows_handleEvent env e flag segment).run_eq hr hw).2
  | flushed => exact hr.flush

theorem runAll_eq (env : String) (ws : List SyncWrite) (hr : r.Faithful room)
    (hw : keysWritten ((runAll env ws).run r).notices ⊆ room) :
    ((runAll env ws).run r).state.stored? = ((runAllOnContents env ws).run r.stored?).state ∧
      ((runAll env ws).run r).state.Faithful room := by
  induction ws generalizing r with
  | nil => exact ⟨rfl, hr⟩
  | cons w ws ih =>
    have hcons : runAll env (w :: ws) = (do w.run env; runAll env ws) := rfl
    rw [hcons, Action.run_bind] at hw ⊢
    rw [keysWritten_append, Finset.union_subset_iff] at hw
    obtain ⟨hstored, hfaithful⟩ := run_eq env w hr hw.1
    have hrest := ih hfaithful hw.2
    rw [hstored] at hrest
    exact hrest

/-- A part of a run writes no key that the whole run does not write. -/
theorem keysWritten_runAll_subset {env : String} {done ws : List SyncWrite} (h : done <+: ws)
    (r : Repository) :
    keysWritten ((runAll env done).run r).notices ⊆
      keysWritten ((runAll env ws).run r).notices := by
  obtain ⟨rest, rfl⟩ := h
  have hsplit : runAll env (done ++ rest) = (do runAll env done; runAll env rest) :=
    List.forM_append
  rw [hsplit, Action.run_bind, keysWritten_append]
  exact Finset.subset_union_left

end SyncWrite

end FlagReplica
