import FlagReplica.Proofs.Repository.Refinement
import FlagReplica.Sync.Synchronizer
/-!
# Who asks

What the synchronizer asks for it tells, so the requests of a run are read off its notices. Nothing
that is done to a repository asks for anything (`AsksNothing`): the requests are those that the
activities of the synchronizer make themselves, and storing what came is never one of them.
-/

namespace FlagReplica

/-- What a notice asks for. -/
def Notice.request? : Notice → Option Request
  | .requested r => some r
  | _ => none

/-- What is asked for, the first request first. -/
def requestsIn (ns : List Notice) : List Request := ns.filterMap Notice.request?

theorem requestsIn_append (ns ms : List Notice) :
    requestsIn (ns ++ ms) = requestsIn ns ++ requestsIn ms := List.filterMap_append

namespace Repository

variable {α β : Type}

/-- The action asks for nothing. -/
def AsksNothing (a : RepositoryAction α) : Prop := ∀ r, requestsIn (a.run r).notices = []

namespace AsksNothing

theorem pure (x : α) : AsksNothing (Pure.pure x) := fun _ => rfl

theorem bind {a : RepositoryAction α} {f : α → RepositoryAction β} (ha : AsksNothing a)
    (hf : ∀ x, AsksNothing (f x)) : AsksNothing (a >>= f) := by
  intro r
  rw [Action.run_bind, requestsIn_append, ha, hf]
  rfl

theorem map {a : RepositoryAction α} (f : α → β) (ha : AsksNothing a) : AsksNothing (f <$> a) := by
  rw [← bind_pure_comp]
  exact ha.bind fun x => pure (f x)

theorem log (level : Level) (text : String) : AsksNothing (Repository.log level text) :=
  fun _ => rfl

theorem changed (c : Change) : AsksNothing (Repository.changed c) := fun _ => rfl

theorem lookUp (key : String) : AsksNothing (Repository.lookUp key) := by
  intro r
  rw [run_lookUp]
  split <;> rfl

end AsksNothing

/-- The write asks for nothing, even if it fails. -/
def WritesOnly (w : RepositoryWrite α) : Prop := AsksNothing (ExceptT.run w)

namespace WritesOnly

theorem pure (x : α) : WritesOnly (Pure.pure x) := AsksNothing.pure _

theorem lift {a : RepositoryAction α} (ha : AsksNothing a) : WritesOnly (ExceptT.lift a) :=
  ha.map Except.ok

theorem bind {w : RepositoryWrite α} {f : α → RepositoryWrite β} (hw : WritesOnly w)
    (hf : ∀ x, WritesOnly (f x)) : WritesOnly (w >>= f) := by
  rw [WritesOnly, ExceptT.run_bind]
  refine AsksNothing.bind hw fun result => ?_
  cases result with
  | ok x => exact hf x
  | error e => exact .pure _

theorem state_bind {f : Repository → RepositoryWrite β} (h : ∀ r, WritesOnly (f r)) :
    WritesOnly (state >>= f) := by
  intro r
  rw [run_state]
  exact h r r

theorem ite {p : Prop} [Decidable p] {w w' : RepositoryWrite α} (h : WritesOnly w)
    (h' : WritesOnly w') : WritesOnly (if p then w else w') := by
  split
  · exact h
  · exact h'

theorem readClock : WritesOnly (ExceptT.lift Repository.readClock) := lift fun _ => rfl

theorem onCache (f : Cache String Entry → α × Cache String Entry) :
    WritesOnly (ExceptT.lift (Repository.onCache f)) := lift fun _ => rfl

/-- An operation of the store fails or is carried out, and tells of flushes alone. -/
theorem onStore (op : StoreOperation) {a : StoreAction Unit}
    (ha : ∀ s, requestsIn ((ExceptT.run a).run s).notices = []) :
    WritesOnly (Repository.onStore (do Store.require op; a)) := by
  rintro ⟨cache, store, clock⟩
  cases store with
  | none => rfl
  | some s =>
    have hrun : requestsIn ((ExceptT.run (do Store.require op; a)).run s).notices = [] := by
      rw [Store.require]
      by_cases h : op ∈ s.unavailable
      · simp [h]
        rfl
      · simpa [h] using ha s
    exact hrun

theorem put (key : String) (entry : Entry) : WritesOnly (Repository.put key entry) := by
  refine state_bind fun r => .ite ?_ (.ite (.pure _) ?_)
  · exact readClock.bind fun _ => onCache _
  · exact (onStore .set fun _ => rfl).bind fun _ => readClock.bind fun _ =>
      (onCache _).bind fun _ => .pure _

theorem remove (key : String) : WritesOnly (Repository.remove key) := by
  refine state_bind fun r => .ite ?_ (.ite (.pure _) ?_)
  · exact readClock.bind fun _ => (onCache _).bind fun _ => .pure _
  · exact (onStore .remove fun _ => rfl).bind fun _ => readClock.bind fun _ =>
      (onCache _).bind fun _ => .pure _

theorem telling (c : Change) {w : RepositoryWrite Bool} (hw : WritesOnly w) :
    WritesOnly (Repository.telling c w) := by
  refine hw.bind fun changed => ?_
  cases changed with
  | true => exact lift (.changed c)
  | false => exact .pure ()

theorem forEach {f : α → RepositoryWrite Unit} (xs : List α) (h : ∀ x, WritesOnly (f x)) :
    WritesOnly (Repository.forEach f xs) := by
  induction xs with
  | nil => exact .pure ()
  | cons x xs ih => exact (h x).bind fun _ => ih

end WritesOnly

/-! ## What synchronization writes -/

section Kind

variable [Record α]

theorem writesOnly_setOne (x : α) (initial : Bool) : WritesOnly (setOne x initial) :=
  .state_bind fun _ => .ite (.lift (.log _ _)) (.telling _ (.put _ _))

theorem writesOnly_deleteOne (id : String) : WritesOnly (deleteOne α id) :=
  .telling _ (.remove _)

theorem writesOnly_setAll (env : String) (xs : List α) (initial : Bool) :
    WritesOnly (setAll env xs initial) := by
  rw [setAll_eq]
  refine .state_bind fun r => .ite (.lift (.log _ _)) ?_
  refine (WritesOnly.telling _ (.put _ _)).bind fun _ => ?_
  refine (WritesOnly.forEach xs fun x => writesOnly_setOne x initial).bind fun _ => ?_
  exact .ite (.forEach _ fun old => writesOnly_deleteOne _) (.pure ())

theorem writesOnly_merge (env : String) (x : α) : WritesOnly (merge env x) := by
  refine .state_bind fun r => ?_
  dsimp only
  split
  · exact .pure ()
  · exact .telling _ (.put _ _)

theorem writesOnly_removeFrom (env id : String) : WritesOnly (removeFrom α env id) := by
  refine .state_bind fun r => ?_
  dsimp only
  split
  · exact .pure ()
  · exact .ite (.telling _ (.put _ _)) (.pure ())

theorem asksNothing_storePulled (env what : String) (answer : Except Error (List α)) :
    AsksNothing (storePulled env what answer) := by
  cases answer with
  | ok xs =>
    rw [storePulled]
    refine AsksNothing.bind (writesOnly_setAll env xs true) fun result => ?_
    cases result with
    | ok u => exact .pure true
    | error e => exact (AsksNothing.log _ _).bind fun _ => .pure false
  | error e =>
    rw [storePulled, pure_bind]
    exact (AsksNothing.log _ _).bind fun _ => .pure false

theorem asksNothing_reportFailure (result : Except Error Unit) :
    AsksNothing (reportFailure result) := by
  cases result with
  | ok u => exact .pure ()
  | error e => exact .log _ _

theorem asksNothing_storeFetched (env : String) (answer : Except Error α) :
    AsksNothing (storeFetched env answer) := by
  cases answer with
  | ok x =>
    have hstored : WritesOnly (setAndMerge env x) :=
      (writesOnly_setOne x false).bind fun _ => writesOnly_merge env x
    exact AsksNothing.bind hstored asksNothing_reportFailure
  | error e => exact AsksNothing.bind (.pure _) asksNothing_reportFailure

/-- An announced deletion is carried out. -/
theorem asksNothing_deletion (env : String) (e : PushEvent) :
    AsksNothing (do
      reportFailure (← (deleteAnnounced α env e).run)
      return (none : Option EntityKind)) := by
  have hdeleted : WritesOnly (deleteAnnounced α env e) :=
    (writesOnly_deleteOne _).bind fun _ => writesOnly_removeFrom env _
  exact AsksNothing.bind hdeleted fun result =>
    (asksNothing_reportFailure result).bind fun _ => .pure none

/-- Of anything else that is announced the version is looked at. -/
theorem asksNothing_announcement (kind : EntityKind) (e : PushEvent) :
    AsksNothing (do return if ← mustFetch α e then some kind else none) := by
  have hget : AsksNothing (get e.identifier : RepositoryAction (Option α)) :=
    (AsksNothing.lookUp _).bind fun _ => .pure _
  exact (hget.bind fun _ => .pure _ : AsksNothing (mustFetch α e)).bind fun _ => .pure _

end Kind

theorem asksNothing_receive (env : String) (e : PushEvent) : AsksNothing (receive env e) := by
  obtain ⟨domain, event, id, v⟩ := e
  refine (AsksNothing.log _ _).bind fun _ => ?_
  cases domain with
  | flag =>
    cases event with
    | delete => exact asksNothing_deletion (α := Flag) env _
    | create | update => exact asksNothing_announcement (α := Flag) .flag _
  | segment =>
    cases event with
    | delete => exact asksNothing_deletion (α := Segment) env _
    | create | update => exact asksNothing_announcement (α := Segment) .segment _
  | unknown => cases event <;> exact .pure none

theorem asksNothing_flush : AsksNothing flush := by
  have hpersist : WritesOnly persistIfChanged := by
    refine .state_bind fun r => ?_
    split
    · refine .ite ?_ ?_
      · exact (WritesOnly.lift (.log _ _)).bind fun _ => .pure _
      · exact WritesOnly.readClock.bind fun _ =>
          (WritesOnly.onStore .persist fun _ => rfl).bind fun _ => .pure _
    · exact .pure _
  refine AsksNothing.bind hpersist fun result => ?_
  rcases result with e | _ | _
  · exact .log _ _
  · exact .pure ()
  · exact .log _ _

end Repository

end FlagReplica
