import FlagReplica.Proofs.Sync.Writes
import FlagReplica.Sync.Synchronizer
/-!
# What moves write

Of the many moves of the synchronizer few touch its repository, and each of these does one of the
writes of synchronization (`Move.writes`). The rest pass sessions and states around.
`Synchronizer.performs_act` says so of every move that is possible. What is proved of runs of writes
so holds of the synchronizer, whichever of its activities takes the next step.

All writes go to one environment: whoever works does so with a session that was granted, and the
sessions granted are for the same environment (`SessionsIn`).
-/

namespace FlagReplica

/-- The session that polling works with. -/
def PollState.session? : PollState → Option Session
  | .pulling session _ => some session
  | .resting session => some session
  | _ => none

/-- The session that streaming works with. -/
def StreamState.session? : StreamState → Option Session
  | .connecting session => some session
  | .catchingUp session _ => some session
  | .listening session => some session
  | .fetching session _ _ => some session
  | .resting session => some session
  | _ => none

/-- The writes that a move does to the repository. -/
def Move.writes : Move → List SyncWrite
  | .flagsPulled _ answer => [.flagsPulled answer]
  | .segmentsPulled _ answer => [.segmentsPulled answer]
  | .received (.event e) => [.received e]
  | .flagFetched answer => [.flagFetched answer]
  | .segmentFetched answer => [.segmentFetched answer]
  | .wake .flush => [.flushed]
  | _ => []

/-- A session that the move grants is for the environment. -/
def Move.GrantsIn (env : String) : Move → Prop
  | .authenticated (.ok session) => session.environment = env
  | _ => True

namespace Synchronizer

/-- Every session there is is for the environment. -/
structure SessionsIn (env : String) (s : Synchronizer) : Prop where
  granted : ∀ session, s.session = some session → session.environment = env
  polling : ∀ session, s.poll.session? = some session → session.environment = env
  streaming : ∀ session, s.stream.session? = some session → session.environment = env

variable {env : String} {α β : Type} {ws vs : List SyncWrite}

theorem sessionsIn_initial (config : SyncConfig) (hasConnector : Bool) (r : Repository) :
    (initial config hasConnector r).SessionsIn env := by
  refine ⟨nofun, nofun, fun session h => ?_⟩
  rw [initial] at h
  split at h <;> cases h

/-- The action does these writes to the repository, tells of no others, and keeps to sessions for
the environment. -/
def Performs (env : String) (ws : List SyncWrite) (a : SyncAction α) : Prop :=
  ∀ s : Synchronizer, s.SessionsIn env → (a.run s).state.SessionsIn env ∧
    (a.run s).state.repository = ((SyncWrite.runAll env ws).run s.repository).state ∧
    keysWritten (a.run s).notices =
      keysWritten ((SyncWrite.runAll env ws).run s.repository).notices

namespace Performs

theorem pure (x : α) : Performs env [] (Pure.pure x : SyncAction α) := fun _ hs => ⟨hs, rfl, rfl⟩

theorem bind {a : SyncAction α} {f : α → SyncAction β} (ha : Performs env ws a)
    (hf : ∀ x, Performs env vs (f x)) : Performs env (ws ++ vs) (a >>= f) := by
  intro s hs
  obtain ⟨hs', hrepository, hkeys⟩ := ha s hs
  obtain ⟨hs'', hrepository', hkeys'⟩ := hf (a.run s).value (a.run s).state hs'
  have hsplit : SyncWrite.runAll env (ws ++ vs) =
      (do SyncWrite.runAll env ws; SyncWrite.runAll env vs) := List.forM_append
  rw [hsplit, Action.run_bind, Action.run_bind, keysWritten_append, keysWritten_append, hkeys,
    hkeys', ← hrepository]
  exact ⟨hs'', hrepository', rfl⟩

/-- What writes nothing may come first. -/
theorem after {a : SyncAction α} {f : α → SyncAction β} (ha : Performs env [] a)
    (hf : ∀ x, Performs env ws (f x)) : Performs env ws (a >>= f) := ha.bind hf

/-- What writes nothing may come last. -/
theorem before {a : SyncAction α} {f : α → SyncAction β} (ha : Performs env ws a)
    (hf : ∀ x, Performs env [] (f x)) : Performs env ws (a >>= f) := by
  rw [← List.append_nil ws]
  exact ha.bind hf

theorem read {f : Synchronizer → SyncAction β} (hf : ∀ s, Performs env ws (f s)) :
    Performs env ws (Action.get >>= f) := fun s hs => hf s s hs

theorem notify {n : Notice} (h : n.written? = none) : Performs env [] (.notify n) := by
  refine fun s hs => ⟨hs, rfl, ?_⟩
  have hkeys : keysWritten [n] = ∅ := by simp [keysWritten, h]
  exact hkeys

theorem log (level : Level) (text : String) : Performs env [] (Synchronizer.log level text) :=
  notify rfl

theorem ask (r : Request) : Performs env [] (Synchronizer.ask r) := notify rfl

/-- A change of the state that leaves the repository and keeps to the sessions writes nothing. -/
theorem modify {f : Synchronizer → Synchronizer}
    (hsessions : ∀ s : Synchronizer, s.SessionsIn env → (f s).SessionsIn env)
    (hrepository : ∀ s, (f s).repository = s.repository) : Performs env [] (.modify f) :=
  fun s hs => ⟨hsessions s hs, hrepository s, rfl⟩

/-- What is done to the repository is done to it. -/
theorem onRepository {w : SyncWrite} {a : RepositoryAction α}
    (h : w.run env = (fun _ => ()) <$> a) : Performs env [w] (Synchronizer.onRepository a) := by
  intro s hs
  have hrun : SyncWrite.runAll env [w] = (do w.run env; Pure.pure ()) := rfl
  rw [hrun, Action.run_bind, h, Action.run_map]
  refine ⟨⟨hs.granted, hs.polling, hs.streaming⟩, rfl, ?_⟩
  rw [keysWritten_append]
  exact (Finset.union_empty _).symm

/-- A write that answers nothing is done as it is. -/
theorem write {w : SyncWrite} {a : RepositoryAction Unit} (h : w.run env = a) :
    Performs env [w] (Synchronizer.onRepository a) := by
  have hmap : (fun _ => ()) <$> a = a := id_map' a
  exact onRepository (h.trans hmap.symm)

end Performs

/-! ## What activities do -/

variable {session : Session}

theorem performs_openReadiness (outcome : Except Error Unit) :
    Performs env [] (openReadiness outcome) := by
  rintro ⟨config, repository, session, readiness, streaming, auth, poll, stream, flush⟩ hs
  cases readiness with
  | some _ => exact ⟨hs, rfl, rfl⟩
  | none => exact ⟨⟨hs.granted, hs.polling, hs.streaming⟩, rfl, rfl⟩

theorem performs_setPull (hsession : session.environment = env) (who : Puller) (p : Pull) :
    Performs env [] (setPull who session p) := by
  refine .modify (fun s hs => ?_) fun s => ?_
  · cases who with
    | poll => exact ⟨hs.granted, by rintro _ ⟨⟩; exact hsession, hs.streaming⟩
    | stream => exact ⟨hs.granted, hs.polling, by rintro _ ⟨⟩; exact hsession⟩
  · cases who <;> rfl

theorem performs_leavePull (hsession : session.environment = env) (who : Puller) :
    Performs env [] (leavePull who session) := by
  refine .modify (fun s hs => ?_) fun s => ?_
  · cases who with
    | poll => exact ⟨hs.granted, by rintro _ ⟨⟩; exact hsession, hs.streaming⟩
    | stream => exact ⟨hs.granted, hs.polling, by rintro _ ⟨⟩; exact hsession⟩
  · cases who <;> rfl

theorem performs_beginPull (hsession : session.environment = env) (who : Puller) :
    Performs env [] (beginPull who session) :=
  (performs_setPull hsession who .start).after fun _ => (Performs.log _ _).after fun _ => .ask _

theorem performs_advancePull (hsession : session.environment = env) (who : Puller) (p : Pull) :
    Performs env [] (advancePull who session p) := by
  unfold advancePull
  cases p.outcome? with
  | none => exact performs_setPull hsession who p
  | some pulled =>
    cases pulled with
    | false => exact performs_leavePull hsession who
    | true =>
      refine (performs_openReadiness _).after fun opened => ?_
      cases opened with
      | false => exact performs_leavePull hsession who
      | true => exact (Performs.log _ _).after fun _ => performs_leavePull hsession who

/-- A change of the state of the stream alone, to one with a session for the environment. -/
theorem performs_toStream {f : Synchronizer → Synchronizer}
    (hsession : session.environment = env) (hstream : ∀ s, (f s).stream.session? = some session)
    (hrest : ∀ s, (f s).session = s.session ∧ (f s).poll = s.poll ∧
      (f s).repository = s.repository) : Performs env [] (.modify f) := by
  refine .modify (fun s hs => ⟨?_, ?_, ?_⟩) fun s => (hrest s).2.2
  · rw [(hrest s).1]
    exact hs.granted
  · rw [(hrest s).2.1]
    exact hs.polling
  · rw [hstream s]
    rintro _ ⟨⟩
    exact hsession

theorem performs_pollOnce (hsession : session.environment = env) :
    Performs env [] (pollOnce session) := by
  refine .read fun s => ?_
  cases s.streaming with
  | false => exact performs_beginPull hsession .poll
  | true =>
    refine (Performs.log _ _).after fun _ => .modify (fun s hs => ?_) fun _ => rfl
    exact ⟨hs.granted, by rintro _ ⟨⟩; exact hsession, hs.streaming⟩

theorem performs_connect (hsession : session.environment = env) :
    Performs env [] (connect session) := by
  refine Performs.after (performs_toStream hsession ?_ ?_) fun _ => .ask _
  · exact fun _ => rfl
  · exact fun _ => ⟨rfl, rfl, rfl⟩

theorem performs_leaveStream (hsession : session.environment = env) :
    Performs env [] (leaveStream session) :=
  performs_toStream hsession (fun _ => rfl) fun _ => ⟨rfl, rfl, rfl⟩

theorem performs_listen (hsession : session.environment = env) :
    Performs env [] (listen session) :=
  performs_toStream hsession (fun _ => rfl) fun _ => ⟨rfl, rfl, rfl⟩

theorem performs_finishConnect (hsession : session.environment = env)
    (answer : Except Error Unit) : Performs env [] (finishConnect session answer) := by
  cases answer with
  | ok u =>
    refine (Performs.log _ _).after fun _ => Performs.after (.modify (fun s hs => ?_) fun _ => rfl)
      fun _ => performs_beginPull hsession .stream
    exact ⟨hs.granted, hs.polling, hs.streaming⟩
  | error e =>
    exact (Performs.log _ _).after fun _ =>
      performs_toStream hsession (fun _ => rfl) fun _ => ⟨rfl, rfl, rfl⟩

theorem performs_finishAuth {answer : Except Error Session}
    (hgrants : (Move.authenticated answer).GrantsIn env) : Performs env [] (finishAuth answer) := by
  cases answer with
  | ok session =>
    refine (Performs.log _ _).after fun _ => .modify (fun s hs => ?_) fun _ => rfl
    refine ⟨fun granted hgranted => ?_, hs.polling, hs.streaming⟩
    rcases Option.or_eq_some_iff.mp hgranted with hbefore | ⟨-, hnew⟩
    · exact hs.granted granted hbefore
    · cases hnew
      exact hgrants
  | error e =>
    refine .read fun s => (Performs.log _ _).after fun _ => .modify (fun s hs => ?_) fun _ => rfl
    exact ⟨hs.granted, hs.polling, hs.streaming⟩

theorem performs_endAll : Performs env [] endAll := by
  refine Performs.after (.modify (fun s hs => ?_) fun _ => rfl) fun _ => .log _ _
  exact ⟨hs.granted, nofun, nofun⟩

theorem performs_die : Performs env [] die :=
  (Performs.log _ _).after fun _ => (performs_openReadiness _).after fun _ => performs_endAll

theorem performs_stop : Performs env [] stop := by
  refine Performs.after (.modify (fun s hs => ?_) fun _ => rfl) fun _ => performs_endAll
  exact ⟨hs.granted, hs.polling, hs.streaming⟩

/-- **Only an event is followed by a write**, and what it asks for writes nothing yet. -/
theorem performs_follow (hsession : session.environment = env) (item : StreamItem) :
    Performs env (Move.received item).writes (follow session item) := by
  cases item with
  | event e =>
    obtain rfl := hsession
    refine (Performs.onRepository (w := .received e) rfl).before fun asked => ?_
    cases asked with
    | none => exact .pure ()
    | some kind =>
      refine Performs.after (performs_toStream (rfl : session.environment = _) ?_ ?_) fun _ => .ask _
      · exact fun _ => rfl
      · exact fun _ => ⟨rfl, rfl, rfl⟩
  | failure e => exact (Performs.log _ _).after fun _ => performs_leaveStream hsession
  | finished => exact (Performs.log _ _).after fun _ => performs_leaveStream hsession

/-! ## Moves -/

/-- Whoever pulls does so with a session for the environment. -/
theorem SessionsIn.of_pulling {s : Synchronizer} (hs : s.SessionsIn env) {who : Puller} {p : Pull}
    (h : s.pulling? who = some (session, p)) : session.environment = env := by
  unfold pulling? at h
  cases who with
  | poll =>
    cases hpoll : s.poll <;> simp only [hpoll] at h <;> cases h
    exact hs.polling session (by rw [hpoll]; rfl)
  | stream =>
    cases hstream : s.stream <;> simp only [hstream] at h <;> cases h
    exact hs.streaming session (by rw [hstream]; rfl)

/-- **Every move does its writes to the repository and no others.** -/
theorem performs_act {s : Synchronizer} {m : Move} {a : SyncAction Unit} (hs : s.SessionsIn env)
    (hm : m.GrantsIn env) (h : s.act? m = some a) : Performs env m.writes a := by
  cases m with
  | authenticated answer =>
    rw [act?] at h
    split at h <;> cases h
    exact performs_finishAuth hm
  | proceed who =>
    cases who with
    | poll =>
      rw [act?] at h
      split at h <;> cases h
      next session hpoll hsession => exact performs_pollOnce (hs.granted session hsession)
    | stream =>
      rw [act?] at h
      split at h <;> cases h
      next session _ hstream hsession hready => exact performs_connect (hs.granted session hsession)
  | askSegments who =>
    rw [act?] at h
    split at h <;> cases h
    next session flags hpull =>
      exact (performs_setPull (hs.of_pulling hpull) who _).after fun _ => .ask _
  | flagsPulled who answer =>
    rw [act?] at h
    split at h <;> cases h
    next session segments hpull =>
      obtain rfl : session.environment = env := hs.of_pulling hpull
      exact (Performs.onRepository (w := .flagsPulled answer) rfl).before fun _ =>
        performs_advancePull rfl who _
  | segmentsPulled who answer =>
    rw [act?] at h
    split at h <;> cases h
    next session flags hpull =>
      obtain rfl : session.environment = env := hs.of_pulling hpull
      exact (Performs.onRepository (w := .segmentsPulled answer) rfl).before fun _ =>
        performs_advancePull rfl who _
  | connected answer =>
    rw [act?] at h
    split at h <;> cases h
    next session hstream =>
      have hsession : session.environment = env := hs.streaming session (by rw [hstream]; rfl)
      exact performs_finishConnect hsession answer
  | received item =>
    rw [act?] at h
    split at h <;> cases h
    next session hstream =>
      have hsession : session.environment = env := hs.streaming session (by rw [hstream]; rfl)
      exact performs_follow hsession item
  | flagFetched answer =>
    rw [act?] at h
    split at h <;> cases h
    next session id hstream =>
      obtain rfl : session.environment = env := hs.streaming session (by rw [hstream]; rfl)
      exact (Performs.write (w := .flagFetched answer) rfl).before fun _ =>
        performs_listen rfl
  | segmentFetched answer =>
    rw [act?] at h
    split at h <;> cases h
    next session id hstream =>
      obtain rfl : session.environment = env := hs.streaming session (by rw [hstream]; rfl)
      exact (Performs.write (w := .segmentFetched answer) rfl).before fun _ =>
        performs_listen rfl
  | wake who =>
    cases who with
    | auth =>
      rw [act?] at h
      split at h <;> cases h
      refine Performs.after (.modify (fun s hs => ?_) fun _ => rfl) fun _ => .ask _
      exact ⟨hs.granted, hs.polling, hs.streaming⟩
    | poll =>
      rw [act?] at h
      split at h <;> cases h
      next session hpoll => exact performs_pollOnce (hs.polling session (by rw [hpoll]; rfl))
    | stream =>
      rw [act?] at h
      split at h <;> cases h
      next session hstream => exact performs_connect (hs.streaming session (by rw [hstream]; rfl))
    | flush =>
      rw [act?] at h
      split at h <;> cases h
      exact Performs.write (w := .flushed) rfl
  | crash =>
    rw [act?] at h
    split at h <;> cases h
    exact performs_die
  | cancel =>
    rw [act?] at h
    split at h <;> cases h
    exact performs_stop

end Synchronizer

end FlagReplica
