import FlagReplica.Proofs.Sync.Course
/-!
# What a happening does

One case for each thing that can come of a happening (`Synchronizer.Effect`): when it can, what it
asks for, and the synchronizer after it. Only the repository is left open, and where a half of a
pull is said to be stored not even that. Every happening of a course has one of these effects
(`effect_of_happen`), so what holds along all courses has to be shown of the effects, and no
activity is looked at again.
-/

namespace FlagReplica

/-- Whether a pulled list is stored is what the answer says, and whether storing it fails. -/
theorem Repository.value_storePulled {α : Type} [Record α] (env what : String)
    (answer : Except Error (List α)) (r : Repository) :
    ((storePulled env what answer).run r).value = r.stores env answer := by
  cases answer with
  | error e => rfl
  | ok xs =>
    rw [storePulled, Action.run_bind, stores]
    cases ((ExceptT.run (setAll env xs true)).run r).value <;> rfl

/-- **A pulled list that is said to be stored came, and took its place.** -/
theorem Repository.takes_storePulled {α : Type} [Record α] [LawfulRecord α] (env what : String)
    {answer : Except Error (List α)} {r : Repository} (h : r.stores env answer = true) :
    ∃ xs, answer = .ok xs ∧ Takes env xs r ((storePulled env what answer).run r).state := by
  cases answer with
  | error e => cases h
  | ok xs =>
    rw [stores] at h
    rw [storePulled, Action.run_bind]
    cases hvalue : ((ExceptT.run (setAll env xs true)).run r).value with
    | error e =>
      rw [hvalue] at h
      cases h
    | ok u => exact ⟨xs, rfl, takes_of_setAll_ok hvalue⟩

namespace Pull

/-- The half for a kind. -/
def half (p : Pull) : EntityKind → Half
  | .flag => p.flags
  | .segment => p.segments

/-- The pull with a half answered. -/
def answer (p : Pull) (kind : EntityKind) (stored : Bool) : Pull :=
  match kind with
  | .flag => { p with flags := .answered stored }
  | .segment => { p with segments := .answered stored }

end Pull

namespace Synchronizer

/-! ## States of those who pull -/

/-- The synchronizer with someone at a pull. -/
def atPull (s : Synchronizer) (who : Puller) (session : Session) (p : Pull) : Synchronizer :=
  match who with
  | .poll => { s with poll := .pulling session p }
  | .stream => { s with stream := .catchingUp session p }

/-- The synchronizer with someone past a pull. -/
def pastPull (s : Synchronizer) (who : Puller) (session : Session) : Synchronizer :=
  match who with
  | .poll => { s with poll := .resting session }
  | .stream => { s with stream := .listening session }

/-- The synchronizer after a half of a pull was answered. If it was the last half, the pull is over,
and if both went well, the first synchronization is. -/
def afterHalf (s : Synchronizer) (who : Puller) (session : Session) (p : Pull) : Synchronizer :=
  match p.outcome? with
  | none => s.atPull who session p
  | some false => s.pastPull who session
  | some true => { s with readiness := s.readiness.or (some (.ok ())) }.pastPull who session

section Fields

variable (s : Synchronizer) (who : Puller) (session : Session) (p : Pull)

@[simp] theorem session_atPull : (s.atPull who session p).session = s.session := by
  cases who <;> rfl

@[simp] theorem auth_atPull : (s.atPull who session p).auth = s.auth := by cases who <;> rfl

@[simp] theorem streaming_atPull : (s.atPull who session p).streaming = s.streaming := by
  cases who <;> rfl

@[simp] theorem session_pastPull : (s.pastPull who session).session = s.session := by
  cases who <;> rfl

@[simp] theorem auth_pastPull : (s.pastPull who session).auth = s.auth := by cases who <;> rfl

@[simp] theorem streaming_pastPull : (s.pastPull who session).streaming = s.streaming := by
  cases who <;> rfl

@[simp] theorem session_afterHalf : (s.afterHalf who session p).session = s.session := by
  unfold afterHalf
  split <;> simp

@[simp] theorem auth_afterHalf : (s.afterHalf who session p).auth = s.auth := by
  unfold afterHalf
  split <;> simp

@[simp] theorem repository_afterHalf : (s.afterHalf who session p).repository = s.repository := by
  unfold afterHalf
  split <;> cases who <;> rfl

@[simp] theorem streaming_afterHalf : (s.afterHalf who session p).streaming = s.streaming := by
  unfold afterHalf
  split <;> simp

end Fields

/-- The synchronizer with all activities over. -/
def halted (s : Synchronizer) : Synchronizer :=
  { s with auth := .over, poll := .over, stream := .over, flush := .over }

/-- The synchronizer after its death. -/
def dead (s : Synchronizer) : Synchronizer :=
  { s with readiness := s.readiness.or (some (.error .synchronizerPanicked)) }.halted

/-- Polling has a session to go on with. -/
inductive TicksWith (s : Synchronizer) (session : Session) : Happening → Prop
  | first (hpoll : s.poll = .waiting) (hsession : s.session = some session) :
      TicksWith s session (.move (.proceed .poll))
  | again (hpoll : s.poll = .resting session) : TicksWith s session (.move (.wake .poll))

/-- Streaming has a session to connect with. -/
inductive ConnectsWith (s : Synchronizer) (session : Session) : Happening → Prop
  | first (hstream : s.stream = .waiting) (hsession : s.session = some session)
      (hready : s.readiness ≠ none) : ConnectsWith s session (.move (.proceed .stream))
  | again (hstream : s.stream = .resting session) :
      ConnectsWith s session (.move (.wake .stream))

/-- What a happening does and asks for. -/
inductive Effect (s : Synchronizer) : Happening → List Request → Synchronizer → Prop
  | outside (r : Repository) : Effect s (.outside r) [] { s with repository := r }
  | closing : Effect s .closing [] s
  | flushed (r : Repository) (hflush : s.flush = .resting) :
      Effect s (.move (.wake .flush)) [] { s with repository := r }
  | granted (session : Session) (hauth : s.auth = .asking) :
      Effect s (.move (.authenticated (.ok session))) []
        { s with session := s.session.or (some session), auth := .over }
  | refused (e : Error) (hauth : s.auth = .asking) :
      Effect s (.move (.authenticated (.error e))) [] { s with auth := .resting }
  | askedAgain (hauth : s.auth = .resting) :
      Effect s (.move (.wake .auth)) [.authenticate] { s with auth := .asking }
  | skipped {w : Happening} {session : Session} (hw : s.TicksWith session w)
      (hup : s.streaming = true) : Effect s w [] { s with poll := .resting session }
  | polled {w : Happening} {session : Session} (hw : s.TicksWith session w)
      (hdown : s.streaming = false) :
      Effect s w [.fetchFlags session] (s.atPull .poll session .start)
  | askedSegments {who : Puller} {session : Session} {flags : Half}
      (hpull : s.pulling? who = some (session, ⟨flags, .unasked⟩)) :
      Effect s (.move (.askSegments who)) [.fetchSegments session]
        (s.atPull who session ⟨flags, .asked⟩)
  | answered {w : Happening} {who : Puller} {kind : EntityKind} {stored : Bool}
      {session : Session} {p : Pull} (r : Repository) (hw : w.half? s = some (who, kind, stored))
      (hpull : s.pulling? who = some (session, p)) (hasked : p.half kind = .asked)
      (hstores : stored = true → w.Stores s r who kind) :
      Effect s w [] ({ s with repository := r }.afterHalf who session (p.answer kind stored))
  | connecting {w : Happening} {session : Session} (hw : s.ConnectsWith session w) :
      Effect s w [.connect session] { s with stream := .connecting session }
  | connected {session : Session} (hstream : s.stream = .connecting session) :
      Effect s (.move (.connected (.ok ()))) [.fetchFlags session]
        ({ s with streaming := true }.atPull .stream session .start)
  | refusedStream {session : Session} (e : Error) (hstream : s.stream = .connecting session) :
      Effect s (.move (.connected (.error e))) [] { s with stream := .resting session }
  | followed {session : Session} (e : PushEvent) (r : Repository)
      (hstream : s.stream = .listening session) :
      Effect s (.move (.received (.event e))) [] { s with repository := r }
  | fetching {session : Session} (e : PushEvent) (r : Repository) (kind : EntityKind)
      (hstream : s.stream = .listening session) :
      Effect s (.move (.received (.event e))) [pointRequest session e.identifier kind]
        { s with repository := r, stream := .fetching session kind e.identifier }
  | failed {session : Session} (e : Error) (hstream : s.stream = .listening session) :
      Effect s (.move (.received (.failure e))) []
        { s with streaming := false, stream := .resting session }
  | finished {session : Session} (hstream : s.stream = .listening session) :
      Effect s (.move (.received .finished)) []
        { s with streaming := false, stream := .resting session }
  | flagFetched {session : Session} {id : String} (answer : Except Error Flag) (r : Repository)
      (hstream : s.stream = .fetching session .flag id) :
      Effect s (.move (.flagFetched answer)) []
        { s with repository := r, stream := .listening session }
  | segmentFetched {session : Session} {id : String} (answer : Except Error Segment)
      (r : Repository) (hstream : s.stream = .fetching session .segment id) :
      Effect s (.move (.segmentFetched answer)) []
        { s with repository := r, stream := .listening session }
  | crashed (halive : s.isAlive = true) : Effect s (.move .crash) [] s.dead
  | died (halive : s.isAlive = true) : Effect s .death [] s.dead
  | cancelled (halive : s.isAlive = true) :
      Effect s (.move .cancel) [] { s with streaming := false }.halted
  | leftAuth (hauth : s.auth = .resting) : Effect s (.left .auth) [] { s with auth := .over }
  | leftPoll (hpoll : s.poll ≠ .over) (hidle : s.pulling? .poll = none) :
      Effect s (.left .poll) [] { s with poll := .over }
  | leftStream (hstream : s.stream = .waiting ∨ ∃ session, s.stream = .resting session) :
      Effect s (.left .stream) [] { s with stream := .over }
  | gaveUp {session : Session} (hstream : s.stream = .listening session) :
      Effect s (.left .stream) [] { s with streaming := false, stream := .resting session }
  | leftFlush (hflush : s.flush = .resting) : Effect s (.left .flush) [] { s with flush := .over }

variable {s : Synchronizer} {w : Happening} {a : SyncAction Unit} {past : List Moment}

/-- What answers a half of a pull is nothing else. -/
theorem plain_of_half? {x : Puller × EntityKind × Bool} (h : w.half? s = some x) :
    w.grant? = none ∧ w.isTick = false ∧ w.connects = false ∧ w.disconnects = false ∧
      w.panics = false := by
  unfold Happening.half? at h
  split at h
  · exact ⟨rfl, rfl, rfl, rfl, rfl⟩
  · exact ⟨rfl, rfl, rfl, rfl, rfl⟩
  · cases h

/-- **A half that is said to be stored is.** -/
theorem Effect.stores {rs : List Request} {s' : Synchronizer} {who : Puller} {kind : EntityKind}
    (h : Effect s w rs s') (hhalf : w.halfFor? s who kind = some true) :
    w.Stores s s'.repository who kind := by
  cases h with
  | @answered w who' kind' stored session p r hw hpull hasked hstores =>
    rw [Happening.halfFor?, hw] at hhalf
    dsimp only at hhalf
    split at hhalf
    · next hsame =>
      cases hhalf
      obtain ⟨rfl, rfl⟩ := hsame
      rw [repository_afterHalf]
      exact hstores rfl
    · cases hhalf
  | skipped hw hup => cases hw <;> cases hhalf
  | polled hw hdown => cases hw <;> cases hhalf
  | connecting hw => cases hw <;> cases hhalf
  | _ => cases hhalf

/-! ## What activities leave and ask for -/

/-- What the action leaves, and what it asks for. -/
def Yields (a : SyncAction Unit) (s : Synchronizer) (rs : List Request) (s' : Synchronizer) :
    Prop := (a.run s).state = s' ∧ requestsIn (a.run s).notices = rs

theorem Effect.of_yields {rs : List Request} {s' : Synchronizer} (ha : Yields a s rs s')
    (h : Effect s w rs s') : Effect s w (requestsIn (a.run s).notices) (a.run s).state := by
  obtain ⟨rfl, rfl⟩ := ha
  exact h

/-- What is done to the repository first asks for nothing. -/
theorem yields_onRepository {α : Type} {b : RepositoryAction α} {f : α → SyncAction Unit}
    {rs : List Request} {s' : Synchronizer} (hb : Repository.AsksNothing b)
    (hf : Yields (f (b.run s.repository).value)
      { s with repository := (b.run s.repository).state } rs s') :
    Yields (onRepository b >>= f) s rs s' := by
  refine ⟨hf.1, ?_⟩
  have hnone : requestsIn ((onRepository b).run s).notices = [] := hb s.repository
  rw [Action.run_bind, requestsIn_append, hnone]
  exact hf.2

theorem yields_advancePull (s : Synchronizer) (who : Puller) (session : Session) (p : Pull) :
    Yields (advancePull who session p) s [] (s.afterHalf who session p) := by
  unfold advancePull afterHalf
  cases p.outcome? with
  | none => exact ⟨by cases who <;> rfl, rfl⟩
  | some pulled =>
    cases pulled with
    | false => exact ⟨by cases who <;> rfl, rfl⟩
    | true =>
      obtain ⟨config, repository, session', readiness, streaming, auth, poll, stream, flush⟩ := s
      cases readiness with
      | none => exact ⟨by cases who <;> rfl, rfl⟩
      | some _ => exact ⟨by cases who <;> rfl, rfl⟩

/-- **A half of a pull is answered**: its list is stored if it came, and then the pull goes on. -/
theorem effect_storePulled {α : Type} [Record α] [LawfulRecord α] {who : Puller} {kind : EntityKind}
    {session : Session} {p : Pull} (what : String) (answer : Except Error (List α))
    (hw : w.half? s = some (who, kind, s.repository.stores session.environment answer))
    (hpull : s.pulling? who = some (session, p)) (hasked : p.half kind = .asked)
    (hstores : ∀ xs r, answer = .ok xs →
      Repository.Takes session.environment xs s.repository r → w.Stores s r who kind) :
    let a := onRepository (Repository.storePulled session.environment what answer) >>=
      fun stored => advancePull who session (p.answer kind stored)
    Effect s w (requestsIn (a.run s).notices) (a.run s).state := by
  let b := Repository.storePulled session.environment what answer
  have hquiet : Repository.AsksNothing b := Repository.asksNothing_storePulled _ what answer
  have hvalue : (b.run s.repository).value = s.repository.stores session.environment answer :=
    Repository.value_storePulled _ what answer s.repository
  refine .of_yields (yields_onRepository hquiet ?_)
    (.answered (b.run s.repository).state hw hpull hasked fun hstored => ?_)
  · rw [hvalue]
    exact yields_advancePull _ who session _
  · obtain ⟨xs, hcame, htakes⟩ := Repository.takes_storePulled _ what hstored
    exact hstores xs _ hcame htakes

theorem yields_die (s : Synchronizer) : Yields die s [] s.dead := by
  obtain ⟨config, repository, session, readiness, streaming, auth, poll, stream, flush⟩ := s
  cases readiness <;> exact ⟨rfl, rfl⟩

theorem effect_pollOnce {session : Session} (hw : s.TicksWith session w) :
    Effect s w (requestsIn ((pollOnce session).run s).notices)
      ((pollOnce session).run s).state := by
  obtain ⟨config, repository, session', readiness, streaming, auth, poll, stream, flush⟩ := s
  cases streaming with
  | false => exact .polled hw rfl
  | true => exact .skipped hw rfl

theorem effect_finishAuth (answer : Except Error Session) (hauth : s.auth = .asking) :
    Effect s (.move (.authenticated answer)) (requestsIn ((finishAuth answer).run s).notices)
      ((finishAuth answer).run s).state := by
  cases answer with
  | ok session => exact .granted session hauth
  | error e => exact .refused e hauth

theorem effect_finishConnect {session : Session} (answer : Except Error Unit)
    (hstream : s.stream = .connecting session) :
    Effect s (.move (.connected answer))
      (requestsIn ((finishConnect session answer).run s).notices)
      ((finishConnect session answer).run s).state := by
  cases answer with
  | ok u => exact .connected hstream
  | error e => exact .refusedStream e hstream

theorem effect_follow {session : Session} (item : StreamItem)
    (hstream : s.stream = .listening session) :
    Effect s (.move (.received item)) (requestsIn ((follow session item).run s).notices)
      ((follow session item).run s).state := by
  cases item with
  | failure e => exact .failed e hstream
  | finished => exact .finished hstream
  | event e =>
    let b := Repository.receive session.environment e
    have hb : Repository.AsksNothing b := Repository.asksNothing_receive session.environment e
    cases hasked : (b.run s.repository).value with
    | none =>
      refine .of_yields (yields_onRepository hb ?_) (.followed e (b.run s.repository).state hstream)
      rw [hasked]
      exact ⟨rfl, rfl⟩
    | some kind =>
      refine .of_yields (yields_onRepository hb ?_)
        (.fetching e (b.run s.repository).state kind hstream)
      rw [hasked]
      exact ⟨rfl, rfl⟩

/-! ## Happenings -/

theorem isAlive_eq_false_iff :
    s.isAlive = false ↔
      s.auth = .over ∧ s.poll = .over ∧ s.stream = .over ∧ s.flush = .over := by
  simp [isAlive, and_assoc]

/-- Where an answer is awaited an activity goes on. -/
theorem isAlive_of_isAsking (h : s.isAsking = true) : s.isAlive = true := by
  by_contra hover
  obtain ⟨hauth, hpoll, hstream, -⟩ := isAlive_eq_false_iff.mp (Bool.eq_false_iff.mpr hover)
  simp [isAsking, pulling?, hauth, hpoll, hstream] at h

theorem isAlive_of_isRunning (h : s.isRunning = true) : s.isAlive = true := by
  have hpoll : s.poll ≠ .over := by simpa [isRunning] using h
  simp [isAlive, hpoll]

/-- **What a possible move does.** -/
theorem effect_of_act {m : Move} (h : s.act? m = some a) :
    Effect s (.move m) (requestsIn (a.run s).notices) (a.run s).state := by
  cases m with
  | authenticated answer =>
    rw [act?] at h
    split at h <;> cases h
    next hauth => exact effect_finishAuth answer hauth
  | proceed who =>
    cases who with
    | poll =>
      rw [act?] at h
      split at h <;> cases h
      next session hpoll hsession => exact effect_pollOnce (.first hpoll hsession)
    | stream =>
      rw [act?] at h
      split at h <;> cases h
      next session outcome hstream hsession hready =>
        exact .connecting (.first hstream hsession (by rw [hready]; exact Option.some_ne_none _))
  | askSegments who =>
    rw [act?] at h
    split at h <;> cases h
    next session flags hpull =>
      exact .of_yields ⟨by cases who <;> rfl, rfl⟩ (.askedSegments hpull)
  | flagsPulled who answer =>
    rw [act?] at h
    split at h <;> cases h
    next session segments hpull =>
      have hhalf : Happening.half? s (.move (.flagsPulled who answer)) =
          some (who, .flag, s.repository.stores session.environment answer) := by
        rw [Happening.half?, hpull]
        rfl
      exact effect_storePulled "flags" answer hhalf hpull rfl fun fs r hcame =>
        .flags hpull (by rw [hcame])
  | segmentsPulled who answer =>
    rw [act?] at h
    split at h <;> cases h
    next session flags hpull =>
      have hhalf : Happening.half? s (.move (.segmentsPulled who answer)) =
          some (who, .segment, s.repository.stores session.environment answer) := by
        rw [Happening.half?, hpull]
        rfl
      exact effect_storePulled "segments" answer hhalf hpull rfl fun gs r hcame =>
        .segments hpull (by rw [hcame])
  | connected answer =>
    rw [act?] at h
    split at h <;> cases h
    next session hstream => exact effect_finishConnect answer hstream
  | received item =>
    rw [act?] at h
    split at h <;> cases h
    next session hstream => exact effect_follow item hstream
  | flagFetched answer =>
    rw [act?] at h
    split at h <;> cases h
    next session id hstream =>
      exact .of_yields
        (yields_onRepository (Repository.asksNothing_storeFetched _ answer) ⟨rfl, rfl⟩)
        (.flagFetched answer _ hstream)
  | segmentFetched answer =>
    rw [act?] at h
    split at h <;> cases h
    next session id hstream =>
      exact .of_yields
        (yields_onRepository (Repository.asksNothing_storeFetched _ answer) ⟨rfl, rfl⟩)
        (.segmentFetched answer _ hstream)
  | wake who =>
    cases who with
    | auth =>
      rw [act?] at h
      split at h <;> cases h
      next hauth => exact .askedAgain hauth
    | poll =>
      rw [act?] at h
      split at h <;> cases h
      next session hpoll => exact effect_pollOnce (.again hpoll)
    | stream =>
      rw [act?] at h
      split at h <;> cases h
      next session hstream => exact .connecting (.again hstream)
    | flush =>
      rw [act?] at h
      split at h <;> cases h
      next hflush =>
        exact .of_yields ⟨rfl, Repository.asksNothing_flush s.repository⟩ (.flushed _ hflush)
  | crash =>
    rw [act?] at h
    split at h <;> cases h
    next hasking => exact .of_yields (yields_die s) (.crashed (isAlive_of_isAsking hasking))
  | cancel =>
    rw [act?] at h
    split at h <;> cases h
    next hrunning => exact .cancelled (isAlive_of_isRunning hrunning)

/-- What an activity does that notices that it is to stop. -/
theorem effect_of_leave {who : Activity} (h : s.leave? who = some a) :
    Effect s (.left who) (requestsIn (a.run s).notices) (a.run s).state := by
  cases who with
  | auth =>
    rw [leave?] at h
    split at h <;> cases h
    next hauth => exact .leftAuth hauth
  | poll =>
    rw [leave?] at h
    split at h <;> cases h
    next hpoll => exact .leftPoll (by rw [hpoll]; nofun) (by rw [pulling?, hpoll])
    next session hpoll => exact .leftPoll (by rw [hpoll]; nofun) (by rw [pulling?, hpoll])
  | stream =>
    rw [leave?] at h
    split at h <;> cases h
    next hstream => exact .leftStream (.inl hstream)
    next session hstream => exact .leftStream (.inr ⟨session, hstream⟩)
    next session hstream => exact .gaveUp hstream
  | flush =>
    rw [leave?] at h
    split at h <;> cases h
    next hflush => exact .leftFlush hflush

/-- **What a happening does.** -/
theorem effect_of_happen (h : s.happen? past w = some a) :
    Effect s w (requestsIn (a.run s).notices) (a.run s).state := by
  cases w with
  | started => cases h
  | move m => exact effect_of_act h
  | outside r =>
    cases h
    exact .outside r
  | death =>
    rw [happen?] at h
    split at h <;> cases h
    next halive => exact .of_yields (yields_die s) (.died halive)
  | closing =>
    cases h
    exact .closing
  | left who =>
    rw [happen?] at h
    split at h
    · exact effect_of_leave h
    · cases h

end Synchronizer

end FlagReplica
