import FlagReplica.Proofs.Sync.Moves
import FlagReplica.Proofs.Sync.Readiness
/-!
# What is asked for when

The activities of a synchronizer wait for each other: nobody asks for anything before there is a
session, streaming asks for a connection only after a pull that stored all there is, and polling
does not ask while the stream is up. `Course.gated` says so of every request of every course, of
what happened before it and not of the state of the synchronizer.

The state is what carries it. Whoever works does so with the session that was granted first
(`OneSession`), and the stream is up in the course whenever the synchronizer takes it to be, which
it never does while it is about to connect (`Tethered`). The gate before a connection is a pull that
stored all there is, so what it is to be stored is said along with it (`Moment.Stores`).
-/

namespace FlagReplica

/-- Whether streaming waits for its turn, connects or rests. -/
def StreamState.isOff : StreamState → Bool
  | .waiting => true
  | .connecting _ => true
  | .resting _ => true
  | _ => false

namespace Synchronizer

variable {s s' : Synchronizer} {w : Happening} {rs : List Request} {past : List Moment}
  {who : Puller} {session : Session} {p : Pull}

/-! ## Sessions -/

/-- The session that someone works with. -/
def sessionOf (s : Synchronizer) : Puller → Option Session
  | .poll => s.poll.session?
  | .stream => s.stream.session?

theorem sessionOf_of_pulling (h : s.pulling? who = some (session, p)) :
    s.sessionOf who = some session := by
  unfold pulling? at h
  cases who with
  | poll =>
    cases hpoll : s.poll <;> simp only [hpoll] at h <;> cases h
    rw [sessionOf, hpoll]
    rfl
  | stream =>
    cases hstream : s.stream <;> simp only [hstream] at h <;> cases h
    rw [sessionOf, hstream]
    rfl

theorem sessionOf_atPull (s : Synchronizer) (who who' : Puller) (session : Session) (p : Pull) :
    (s.atPull who session p).sessionOf who' =
      if who = who' then some session else s.sessionOf who' := by
  cases who <;> cases who' <;> rfl

theorem sessionOf_pastPull (s : Synchronizer) (who who' : Puller) (session : Session) :
    (s.pastPull who session).sessionOf who' =
      if who = who' then some session else s.sessionOf who' := by
  cases who <;> cases who' <;> rfl

theorem sessionOf_afterHalf (s : Synchronizer) (who who' : Puller) (session : Session) (p : Pull) :
    (s.afterHalf who session p).sessionOf who' =
      if who = who' then some session else s.sessionOf who' := by
  unfold afterHalf
  rcases p.outcome? with _ | _ | _
  · exact sessionOf_atPull s who who' session p
  · exact sessionOf_pastPull s who who' session
  · exact sessionOf_pastPull _ who who' session

theorem TicksWith.session_eq (h : s.TicksWith session w) :
    s.sessionOf .poll = some session ∨ s.session = some session := by
  cases h with
  | first hpoll hsession => exact .inr hsession
  | again hpoll =>
    rw [sessionOf, hpoll]
    exact .inl rfl

theorem ConnectsWith.session_eq (h : s.ConnectsWith session w) :
    s.sessionOf .stream = some session ∨
      s.session = some session ∧ s.stream = .waiting ∧ s.readiness ≠ none := by
  cases h with
  | first hstream hsession hready => exact .inr ⟨hsession, hstream, hready⟩
  | again hstream =>
    rw [sessionOf, hstream]
    exact .inl rfl

theorem Effect.session_eq (h : Effect s w rs s') : s'.session = s.session.or w.grant? := by
  cases h with
  | granted session hauth => rfl
  | skipped hw hup => cases hw <;> exact Option.or_none.symm
  | polled hw hdown => cases hw <;> exact Option.or_none.symm
  | connecting hw => cases hw <;> exact Option.or_none.symm
  | askedSegments hpull => rw [session_atPull]; exact Option.or_none.symm
  | answered r hw hpull hasked =>
    rw [(plain_of_half? hw).1, session_afterHalf]
    exact Option.or_none.symm
  | _ => exact Option.or_none.symm

/-- Authentication that is over stays over. -/
theorem Effect.auth_over (h : Effect s w rs s') (hover : s.auth = .over) : s'.auth = .over := by
  cases h with
  | granted session hauth | crashed halive | died halive | cancelled halive | leftAuth hauth => rfl
  | refused e hauth | askedAgain hauth => cases hover.symm.trans hauth
  | askedSegments hpull => rw [auth_atPull]; exact hover
  | answered r hw hpull hasked => rw [auth_afterHalf]; exact hover
  | _ => exact hover

/-- Where a session is granted, authentication is over. -/
theorem Effect.auth_of_grant (h : Effect s w rs s') (hgrant : w.grant? ≠ none) :
    s'.auth = .over := by
  cases h with
  | granted session hauth => rfl
  | skipped hw hup => cases hw <;> exact absurd rfl hgrant
  | polled hw hdown => cases hw <;> exact absurd rfl hgrant
  | connecting hw => cases hw <;> exact absurd rfl hgrant
  | answered r hw hpull hasked => exact absurd (plain_of_half? hw).1 hgrant
  | _ => exact absurd rfl hgrant

/-- **Whoever works goes on with the session he has, or takes up the one that was granted.**
Streaming takes one up only once the first synchronization is over. -/
theorem Effect.sessionOf_eq (h : Effect s w rs s') (hsession : s'.sessionOf who = some session) :
    s.sessionOf who = some session ∨ s.session = some session ∧
      (who = .stream → s.stream = .waiting ∧ s.readiness ≠ none) := by
  cases h with
  | outside r | closing | flushed r hflush | granted session' hauth | refused e hauth
  | askedAgain hauth | followed e r hstream | leftAuth hauth | leftFlush hflush =>
    exact .inl hsession
  -- at their first turn polling and streaming take up the session that was granted
  | skipped hw _ | polled hw _ =>
    cases who with
    | poll =>
      cases hsession
      exact hw.session_eq.imp_right fun h => ⟨h, nofun⟩
    | stream => exact .inl hsession
  | @askedSegments who' session' flags hpull =>
    rw [sessionOf_atPull] at hsession
    split at hsession
    · next hwho =>
      cases hsession
      exact .inl (hwho ▸ sessionOf_of_pulling hpull)
    · exact .inl hsession
  | answered r hw hpull hasked =>
    rw [sessionOf_afterHalf] at hsession
    split at hsession
    · next hwho =>
      cases hsession
      exact .inl (hwho ▸ sessionOf_of_pulling hpull)
    · exact .inl hsession
  | connecting hw =>
    cases who with
    | poll => exact .inl hsession
    | stream =>
      cases hsession
      exact hw.session_eq.imp_right fun h => ⟨h.1, fun _ => h.2⟩
  | connected hstream | refusedStream _ hstream | fetching _ _ _ hstream | failed _ hstream
  | finished hstream | flagFetched _ _ hstream | segmentFetched _ _ hstream | gaveUp hstream =>
    cases who with
    | poll => exact .inl hsession
    | stream =>
      cases hsession
      rw [sessionOf, hstream]
      exact .inl rfl
  | leftPoll hpoll hidle =>
    cases who with
    | poll => cases hsession
    | stream => exact .inl hsession
  | leftStream hstream =>
    cases who with
    | poll => exact .inl hsession
    | stream => cases hsession
  | crashed halive | died halive | cancelled halive => cases who <;> cases hsession

/-- There is one session, the one that was granted first, and authentication is over with it. -/
structure OneSession (past : List Moment) (s : Synchronizer) : Prop where
  granted : s.session = firstGrant past
  ended : s.session ≠ none → s.auth = .over
  working : ∀ who session, s.sessionOf who = some session → s.session = some session

theorem oneSession_initial (config : SyncConfig) (hasConnector : Bool) (r : Repository) :
    OneSession [.first config hasConnector r] (initial config hasConnector r) where
  granted := rfl
  ended h := absurd rfl h
  working who session h := by
    cases who with
    | poll => cases h
    | stream =>
      rw [initial, sessionOf] at h
      split at h <;> cases h

/-- **Whatever happens, there is one session.** -/
theorem OneSession.step {o : Outcome Notice Synchronizer Unit} (h : OneSession past s)
    (heffect : Effect s w (requestsIn o.notices) s') : OneSession (⟨s, w, o⟩ :: past) s' := by
  have hkept : ∀ session, s.session = some session → s'.session = some session := by
    intro session hsession
    rw [heffect.session_eq, hsession]
    rfl
  refine ⟨?_, fun hsome => ?_, fun who session hsession => ?_⟩
  · rw [heffect.session_eq, h.granted]
    rfl
  · by_cases hgrant : w.grant? = none
    · rw [heffect.session_eq, hgrant, Option.or_none] at hsome
      exact heffect.auth_over (h.ended hsome)
    · exact heffect.auth_of_grant hgrant
  · rcases heffect.sessionOf_eq hsession with hbefore | ⟨hgranted, -⟩
    · exact hkept session (h.working who session hbefore)
    · exact hkept session hgranted

/-! ## The stream -/

/-- Streaming that is over stays over. -/
theorem Effect.stream_over (h : Effect s w rs s') (hover : s.stream = .over) :
    s'.stream = .over := by
  have hidle : s.pulling? .stream = none := by rw [pulling?, hover]
  cases h with
  | @askedSegments who session flags hpull =>
    cases who with
    | poll => exact hover
    | stream => cases hidle.symm.trans hpull
  | @answered w who kind stored session p r hw hpull hasked =>
    cases who with
    | poll =>
      unfold afterHalf
      split <;> exact hover
    | stream => cases hidle.symm.trans hpull
  | connecting hw =>
    cases hw with
    | first hstream _ _ => cases hover.symm.trans hstream
    | again hstream => cases hover.symm.trans hstream
  | connected hstream | refusedStream _ hstream | fetching _ _ _ hstream | failed _ hstream
  | finished hstream | flagFetched _ _ hstream | segmentFetched _ _ hstream | gaveUp hstream =>
    cases hover.symm.trans hstream
  | crashed halive | died halive | cancelled halive | leftStream hstream => rfl
  | _ => exact hover

/-- While streaming waits, connects or rests, the stream is not taken to be up. -/
def OffIsDown (s : Synchronizer) : Prop := s.stream.isOff = true → s.streaming = false

theorem OffIsDown.step (h : s.OffIsDown) (heffect : Effect s w rs s') : s'.OffIsDown := by
  intro hoff
  cases heffect with
  | @askedSegments who session flags hpull =>
    cases who with
    | poll => exact h hoff
    | stream => cases hoff
  | @answered w who kind stored session p r hw hpull hasked =>
    cases who with
    | poll =>
      rw [streaming_afterHalf]
      refine h ?_
      unfold afterHalf at hoff
      split at hoff <;> exact hoff
    | stream =>
      unfold afterHalf at hoff
      split at hoff <;> cases hoff
  | connecting hw =>
    cases hw with
    | first hstream _ _ => exact h (by rw [hstream]; rfl)
    | again hstream => exact h (by rw [hstream]; rfl)
  | refusedStream e hstream => exact h (by rw [hstream]; rfl)
  | failed e hstream | finished hstream | cancelled halive | gaveUp hstream => rfl
  | connected hstream | fetching _ _ _ hstream | flagFetched _ _ hstream | segmentFetched _ _ hstream
  | crashed halive | died halive | leftStream hstream => cases hoff
  | _ => exact h hoff

/-- **The stream is taken to be up** from where it is connected to where it is disconnected. -/
theorem Effect.streaming_eq (h : Effect s w rs s') (hdown : s.OffIsDown) :
    s'.streaming = (w.connects || (!w.disconnects && s.streaming)) := by
  cases h with
  | skipped hw hup => cases hw <;> rfl
  | polled hw hdown => cases hw <;> rfl
  | connecting hw => cases hw <;> rfl
  | askedSegments hpull => rw [streaming_atPull]; rfl
  | answered r hw hpull hasked =>
    obtain ⟨-, -, hconnects, hdisconnects, -⟩ := plain_of_half? hw
    rw [streaming_afterHalf, hconnects, hdisconnects]
    rfl
  | leftStream hstream =>
    -- leaving disconnects, but whoever leaves while waiting or resting had no stream
    refine hdown ?_
    rcases hstream with hstream | ⟨session, hstream⟩ <;> rw [hstream] <;> rfl
  | _ => rfl

/-- Someone asks for a connection only where there is a session to connect with. -/
theorem Effect.connectsWith (h : Effect s w rs s') (hr : .connect session ∈ rs) :
    s.ConnectsWith session w := by
  cases h with
  | connecting hw =>
    cases List.mem_singleton.mp hr
    exact hw
  | fetching e r kind hstream => cases kind <;> cases List.mem_singleton.mp hr
  | askedAgain _ | polled _ _ | askedSegments _ | connected _ => cases List.mem_singleton.mp hr
  | _ => cases hr

/-- What is asked for is a session, or is asked for with one that there is. -/
theorem Effect.asks (h : Effect s w rs s') {request : Request} (hr : request ∈ rs) :
    (request = .authenticate ∧ s.auth = .resting) ∨ ∃ session, request.session? = some session ∧
      (s.session = some session ∨ ∃ who, s.sessionOf who = some session) := by
  cases h with
  | askedAgain hauth => exact .inl ⟨List.mem_singleton.mp hr, hauth⟩
  | @polled w session hw hdown =>
    obtain rfl := List.mem_singleton.mp hr
    exact .inr ⟨session, rfl, hw.session_eq.symm.imp_right fun h => ⟨.poll, h⟩⟩
  | @askedSegments who session flags hpull =>
    obtain rfl := List.mem_singleton.mp hr
    exact .inr ⟨session, rfl, .inr ⟨who, sessionOf_of_pulling hpull⟩⟩
  | @connecting w session hw =>
    obtain rfl := List.mem_singleton.mp hr
    refine .inr ⟨session, rfl, ?_⟩
    rcases hw.session_eq with hworking | ⟨hgranted, -⟩
    · exact .inr ⟨.stream, hworking⟩
    · exact .inl hgranted
  | @connected session hstream =>
    obtain rfl := List.mem_singleton.mp hr
    exact .inr ⟨session, rfl, .inr ⟨.stream, by rw [sessionOf, hstream]; rfl⟩⟩
  | @fetching session e r kind hstream =>
    obtain rfl := List.mem_singleton.mp hr
    refine .inr ⟨session, by cases kind <;> rfl, .inr ⟨.stream, ?_⟩⟩
    rw [sessionOf, hstream]
    rfl
  | _ => cases hr

/-- **At a tick** polling asks for nothing if the stream is taken to be up, and else begins a
pull. -/
theorem Effect.tick (h : Effect s w rs s') (htick : w.isTick = true) :
    ∃ session, (s.session = some session ∨ s.sessionOf .poll = some session) ∧
      if s.streaming then rs = []
      else rs = [.fetchFlags session] ∧ s'.pulling? .poll = some (session, .start) := by
  cases h with
  | @skipped w session hw hup =>
    refine ⟨session, hw.session_eq.symm, ?_⟩
    rw [if_pos hup]
  | @polled w session hw hdown =>
    refine ⟨session, hw.session_eq.symm, ?_⟩
    rw [hdown, if_neg Bool.false_ne_true]
    exact ⟨rfl, rfl⟩
  | connecting hw => cases hw <;> cases htick
  | answered r hw hpull hasked => cases (plain_of_half? hw).2.1.symm.trans htick
  | _ => cases htick

/-- The first synchronization that went well has gone well for good. -/
theorem Effect.readiness_of_ok (h : Effect s w rs s') (hok : s.readiness = some (.ok ())) :
    s'.readiness = some (.ok ()) := by
  rcases h.readiness with ⟨-, -, rfl⟩ | ⟨-, -, hsame⟩ |
    ⟨-, who, kind, stored, session, p, -, -, hready⟩
  · have hdead : s.dead.readiness = s.readiness.or (some (.error .synchronizerPanicked)) := rfl
    rw [hdead, hok]
    rfl
  · exact hsame.trans hok
  · rw [hready, hok]
    split <;> rfl

/-- There is a stream only if there may be one; it is up when it is taken to be; and whoever works
on it has waited for a pull that stored all there is. -/
structure Tethered (config : SyncConfig) (hasConnector : Bool) (past : List Moment)
    (s : Synchronizer) : Prop where
  enabled : s.stream ≠ .over → hasConnector = true ∧ config.streamEnabled = true
  down : s.OffIsDown
  up : s.streaming = isUp past
  ready : ∀ session, s.sessionOf .stream = some session → s.readiness = some (.ok ())

variable {config : SyncConfig} {hasConnector : Bool}

theorem tethered_initial (config : SyncConfig) (hasConnector : Bool) (r : Repository) :
    Tethered config hasConnector [.first config hasConnector r]
      (initial config hasConnector r) where
  enabled h := by
    rw [initial] at h
    split at h
    · next henabled => simpa using henabled
    · exact absurd rfl h
  down _ := rfl
  up := rfl
  ready session h := by
    rw [initial, sessionOf] at h
    split at h <;> cases h

/-- Streaming that has a first synchronization to go on from has one that went well: had the thread
died, nothing would wait any more. -/
theorem Outcomes.ready_of_waiting (h : Outcomes past s) (hstream : s.stream = .waiting)
    (hready : s.readiness ≠ none) : s.readiness = some (.ok ()) := by
  rcases hs : s.readiness with _ | e | _
  · exact absurd hs hready
  · obtain ⟨-, -, hover, -⟩ := isAlive_eq_false_iff.mp (h.halted (h.failed e hs).2)
    cases hstream.symm.trans hover
  · rfl

/-- **Whatever happens, the stream stays tethered.** -/
theorem Tethered.step {o : Outcome Notice Synchronizer Unit}
    (h : Tethered config hasConnector past s) (houtcomes : Outcomes past s)
    (heffect : Effect s w (requestsIn o.notices) s') :
    Tethered config hasConnector (⟨s, w, o⟩ :: past) s' := by
  refine ⟨fun hgoesOn => ?_, h.down.step heffect, ?_, fun session hsession => ?_⟩
  · exact h.enabled fun hover => hgoesOn (heffect.stream_over hover)
  · rw [heffect.streaming_eq h.down, h.up]
    rfl
  -- streaming takes up a session only once there is an outcome, and keeps it from then on
  · rcases heffect.sessionOf_eq hsession with hbefore | ⟨-, hfirst⟩
    · exact heffect.readiness_of_ok (h.ready session hbefore)
    · obtain ⟨hwaiting, hready⟩ := hfirst rfl
      exact heffect.readiness_of_ok (houtcomes.ready_of_waiting hwaiting hready)

/-- Whoever may ask for a connection has none, and the first synchronization went well. -/
theorem Tethered.of_connectsWith (h : Tethered config hasConnector past s)
    (houtcomes : Outcomes past s) (hw : s.ConnectsWith session w) :
    s.stream ≠ .over ∧ s.streaming = false ∧ s.readiness = some (.ok ()) := by
  cases hw with
  | first hstream hsession hready =>
    have hdown : s.streaming = false := h.down (by rw [hstream]; rfl)
    exact ⟨by rw [hstream]; nofun, hdown, houtcomes.ready_of_waiting hstream hready⟩
  | again hstream =>
    have hdown : s.streaming = false := h.down (by rw [hstream]; rfl)
    have hready : s.readiness = some (.ok ()) :=
      h.ready session (by rw [sessionOf, hstream]; rfl)
    exact ⟨by rw [hstream]; nofun, hdown, hready⟩

end Synchronizer

/-! ## Courses -/

namespace Course

open Synchronizer (Effect)

variable {config : SyncConfig} {hasConnector : Bool} {r : Repository}
  {past earlier : List Moment} {s : Synchronizer} {now : Moment}

theorem oneSession (h : Course config hasConnector r past s) : s.OneSession past := by
  induction h with
  | started => exact Synchronizer.oneSession_initial config hasConnector r
  | happened hpast h ih => exact ih.step (Synchronizer.effect_of_happen h)

theorem tethered (h : Course config hasConnector r past s) :
    s.Tethered config hasConnector past := by
  induction h with
  | started => exact Synchronizer.tethered_initial config hasConnector r
  | happened hpast h ih => exact ih.step hpast.outcomes (Synchronizer.effect_of_happen h)

/-- What is asked for at a moment may be asked for after what happened before. -/
structure Gated (config : SyncConfig) (hasConnector : Bool) (now : Moment)
    (earlier : List Moment) : Prop where
  /-- A session is asked for only as long as none was granted. -/
  auth : .authenticate ∈ now.requests → firstGrant earlier = none
  /-- Everything else is asked for with the session that was granted first. -/
  session : ∀ request ∈ now.requests, ∀ session, request.session? = some session →
    firstGrant earlier = some session
  /-- A connection is asked for only where there may be one, after a pull that stored all there is,
  and not while the stream is up. -/
  connect : ∀ session, .connect session ∈ now.requests → hasConnector = true ∧
    config.streamEnabled = true ∧ HasPulled earlier ∧ isUp earlier = false
  /-- A tick of polling asks for nothing while the stream is up. -/
  tick : now.what.isTick = true → isUp earlier = true → now.requests = []

theorem gated_first (config : SyncConfig) (hasConnector : Bool) (r : Repository) :
    Gated config hasConnector (.first config hasConnector r) [] where
  auth _ := rfl
  session request hr session hsession := by
    cases List.mem_singleton.mp hr
    cases hsession
  connect session hr := by cases List.mem_singleton.mp hr
  tick h := by cases h

theorem gated_of_effect (h : Course config hasConnector r earlier now.before)
    (heffect : Effect now.before now.what now.requests now.outcome.state) :
    Gated config hasConnector now earlier where
  auth hr := by
    rcases heffect.asks hr with ⟨-, hresting⟩ | ⟨session, hsession, -⟩
    · rw [← h.oneSession.granted]
      -- had a session been granted, authentication would be over and not at rest
      by_contra hsome
      cases hresting.symm.trans (h.oneSession.ended hsome)
    · cases hsession
  session request hr session hsession := by
    rcases heffect.asks hr with ⟨rfl, -⟩ | ⟨session', hsession', hhas⟩
    · cases hsession
    · cases hsession.symm.trans hsession'
      rw [← h.oneSession.granted]
      rcases hhas with hgranted | ⟨who, hworking⟩
      · exact hgranted
      · exact h.oneSession.working who session hworking
  connect session hr := by
    obtain ⟨hstream, hdown, hready⟩ :=
      h.tethered.of_connectsWith h.outcomes (heffect.connectsWith hr)
    obtain ⟨hconnector, henabled⟩ := h.tethered.enabled hstream
    exact ⟨hconnector, henabled, h.outcomes.ready.mp hready, h.tethered.up.symm.trans hdown⟩
  tick htick hup := by
    obtain ⟨session, -, hasked⟩ := heffect.tick htick
    rwa [h.tethered.up, hup, if_pos rfl] at hasked

/-- **Nobody runs ahead of a gate**, and what the gates take to be stored is: where they count a
half of a pull, its list came and took the place of the list before it. -/
theorem gated (h : Course config hasConnector r past s) :
    ∀ now earlier, now :: earlier <:+ past → Gated config hasConnector now earlier ∧
      ∀ who kind, now.half? who kind = some true → now.Stores who kind := by
  intro now earlier hsuffix
  refine ⟨?_, fun who kind => h.stores_of_half hsuffix⟩
  rcases h.moment_of_suffix hsuffix with ⟨rfl, rfl⟩ | ⟨hearlier, heffect⟩
  · exact gated_first config hasConnector r
  · exact gated_of_effect hearlier heffect

/-- Authentication takes two attempts, polling pulls once and is skipped once, and the stream ends
and is connected again. -/
def reconnecting : List Happening :=
  [.move (.authenticated (.error .unauthorized)), .move (.wake .auth),
    .move (.authenticated (.ok ⟨"token", "e"⟩)), .move (.proceed .poll)] ++
    answersTo .poll (.ok []) (.ok []) ++
    [.move (.proceed .stream), .move (.connected (.ok ())), .move (.wake .poll)] ++
    answersTo .stream (.ok []) (.ok []) ++
    [.move (.received .finished), .move (.wake .stream)]

/-- Two sessions, two pulls and two connections are asked for, each in its turn. -/
theorem gated_reconnecting :
    let c := courseOf .default true (.empty 2) reconnecting
    let session : Session := ⟨"token", "e"⟩
    c.1.reverse.flatMap Moment.requests = [.authenticate, .authenticate,
        .fetchFlags session, .fetchSegments session, .connect session,
        .fetchFlags session, .fetchSegments session, .connect session] ∧
      ∀ now earlier, now :: earlier <:+ c.1 → Gated .default true now earlier ∧
        ∀ who kind, now.half? who kind = some true → now.Stores who kind := by
  intro c session
  exact ⟨by decide +kernel, gated (course_courseOf .default true (.empty 2) reconnecting)⟩

end Course

end FlagReplica
