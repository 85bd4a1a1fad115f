import FlagReplica.Proofs.Repository.Acceptance
import FlagReplica.Proofs.Sync.Requests
/-!
# The course of a synchronizer

The moves of a synchronizer are what its activities wait for. In its course more happens than that:
others work with the same repository, its store fails and recovers, whatever it calls may bring the
thread down, and once it is told to stop, an activity that has something on its way goes on with
that and stops only when it would rest. A `Course` is any list of such happenings that can come one
after the other, each with the synchronizer before it and with what it came to, the last one first.

What is said of a course is said of this list and not of the state of the synchronizer: who was
granted a session first (`firstGrant`), whether the stream is up (`isUp`), how the halves of a pull
came out since the pull began (`halfOf`), and whether some pull stored both before anything died
(`HasPulled`). A half came out well if its write says so, and `Moment.Stores` is what then is held.
-/

namespace FlagReplica

/-- What can happen in the course of a synchronizer. -/
inductive Happening
  | started
  | move (m : Move)
  /-- Others change the repository, or what its store can do. -/
  | outside (r : Repository)
  /-- The thread dies of something else than an answer. -/
  | death
  /-- The synchronizer is told to stop. Each activity goes on until it notices. -/
  | closing
  /-- An activity that has nothing on its way notices that it is told to stop. -/
  | left (who : Activity)

/-- A happening, with the synchronizer before it and what it came to. -/
structure Moment where
  before : Synchronizer
  what : Happening
  outcome : Outcome Notice Synchronizer Unit

/-- Whether the list of an answer came, and is stored without a failure. -/
def Repository.stores {α : Type} [Record α] (env : String) (r : Repository) :
    Except Error (List α) → Bool
  | .ok xs => ((ExceptT.run (setAll env xs true)).run r).value.isOk
  | .error _ => false

namespace Request

/-- The session that something is asked for with. -/
def session? : Request → Option Session
  | .authenticate => none
  | .fetchFlags session => some session
  | .fetchSegments session => some session
  | .fetchFlag session _ => some session
  | .fetchSegment session _ => some session
  | .connect session => some session

/-- Whether all flags are asked for. -/
def asksFlags : Request → Bool
  | .fetchFlags _ => true
  | _ => false

end Request

namespace Happening

/-- The session that is granted. -/
def grant? : Happening → Option Session
  | .move (.authenticated (.ok session)) => some session
  | _ => none

/-- Whether polling looks at whether it has to pull: at its start, and at the end of every rest. -/
def isTick : Happening → Bool
  | .move (.proceed .poll) => true
  | .move (.wake .poll) => true
  | _ => false

/-- Whether the stream is connected. -/
def connects : Happening → Bool
  | .move (.connected (.ok ())) => true
  | _ => false

/-- Whether the stream fails or ends, or is given up because the synchronizer is told to stop. -/
def disconnects : Happening → Bool
  | .move (.received (.failure _)) => true
  | .move (.received .finished) => true
  | .move .cancel => true
  | .left .stream => true
  | _ => false

/-- Whether the thread dies. -/
def panics : Happening → Bool
  | .move .crash => true
  | .death => true
  | _ => false

/-- Whether the synchronizer is told to stop. -/
def isClosing : Happening → Bool
  | .closing => true
  | _ => false

/-- Whose half of a pull is answered, which half, and whether what came is stored. -/
def half? (s : Synchronizer) : Happening → Option (Puller × EntityKind × Bool)
  | .move (.flagsPulled who answer) => (s.pulling? who).map fun (session, _) =>
    (who, .flag, s.repository.stores session.environment answer)
  | .move (.segmentsPulled who answer) => (s.pulling? who).map fun (session, _) =>
    (who, .segment, s.repository.stores session.environment answer)
  | _ => none

/-- How a half of someone's pull came out, if that is what was answered. -/
def halfFor? (s : Synchronizer) (who : Puller) (kind : EntityKind) (w : Happening) : Option Bool :=
  match w.half? s with
  | some (who', kind', stored) => if who' = who ∧ kind' = kind then some stored else none
  | none => none

/-- Whether someone begins a pull: polling at a tick, or streaming on a new connection, asks for all
flags. -/
def begins (who : Puller) (asked : List Request) (w : Happening) : Bool :=
  (match who with
    | .poll => w.isTick
    | .stream => w.connects) && asked.any Request.asksFlags

end Happening

/-- A half of someone's pull is stored: a list came for it, and took the place of the list of the
environment that the pull is for. -/
inductive Happening.Stores (s : Synchronizer) (w : Happening) (after : Repository) (who : Puller) :
    EntityKind → Prop
  | flags {session : Session} {p : Pull} {fs : List Flag}
      (hpull : s.pulling? who = some (session, p)) (hcame : w = .move (.flagsPulled who (.ok fs)))
      (htakes : Repository.Takes session.environment fs s.repository after) :
      Stores s w after who .flag
  | segments {session : Session} {p : Pull} {gs : List Segment}
      (hpull : s.pulling? who = some (session, p))
      (hcame : w = .move (.segmentsPulled who (.ok gs)))
      (htakes : Repository.Takes session.environment gs s.repository after) :
      Stores s w after who .segment

namespace Moment

/-- What is asked for. -/
def requests (m : Moment) : List Request := requestsIn m.outcome.notices

/-- Whether someone begins a pull. -/
def begins (who : Puller) (m : Moment) : Bool := m.what.begins who m.requests

/-- How a half of someone's pull came out, if it was answered at that moment. -/
def half? (who : Puller) (kind : EntityKind) (m : Moment) : Option Bool :=
  m.what.halfFor? m.before who kind

/-- A half of someone's pull is stored at that moment. -/
def Stores (who : Puller) (kind : EntityKind) (m : Moment) : Prop :=
  m.what.Stores m.before m.outcome.state.repository who kind

end Moment

/-! ## What is said of a course -/

/-- The session that was granted first. -/
def firstGrant : List Moment → Option Session
  | [] => none
  | m :: past => (firstGrant past).or m.what.grant?

/-- Whether the stream was connected and has not been disconnected since. -/
def isUp : List Moment → Bool
  | [] => false
  | m :: past => m.what.connects || (!m.what.disconnects && isUp past)

/-- Whether the thread has died. -/
def hasPanicked (past : List Moment) : Bool := past.any (·.what.panics)

/-- How a half of someone's last pull came out, if it was answered since the pull began. -/
def halfOf (who : Puller) (kind : EntityKind) (past : List Moment) : Option Bool :=
  (past.takeWhile fun m => !m.begins who).findSome? (Moment.half? who kind)

/-- How someone's last pull came out, if both halves were answered since it began. -/
def pullOf (who : Puller) (past : List Moment) : Option Bool :=
  match halfOf who .flag past, halfOf who .segment past with
  | some flags, some segments => some (flags && segments)
  | _, _ => none

/-- How the pull came out that was completed last. -/
def lastPull : List Moment → Option Bool
  | [] => none
  | m :: past =>
    match m.what.half? m.before with
    | some (who, _, _) => (pullOf who (m :: past)).or (lastPull past)
    | none => lastPull past

/-- Some pull stored the flags and the segments, before the thread died if it has. -/
def HasPulled (past : List Moment) : Prop :=
  ∃ now who, now <:+ past ∧ hasPanicked now = false ∧ pullOf who now = some true

/-! ## Courses -/

namespace Synchronizer

/-- Whether any activity goes on. -/
def isAlive (s : Synchronizer) : Bool :=
  s.auth ≠ .over || s.poll ≠ .over || s.stream ≠ .over || s.flush ≠ .over

/-- What an activity does that notices that it is told to stop. A connection is given up first. -/
def leave? (s : Synchronizer) : Activity → Option (SyncAction Unit)
  | .auth => if s.auth = .resting then some (.modify fun s => { s with auth := .over }) else none
  | .poll => match s.poll with
    | .waiting => some (.modify fun s => { s with poll := .over })
    | .resting _ => some (.modify fun s => { s with poll := .over })
    | _ => none
  | .stream => match s.stream with
    | .waiting => some (.modify fun s => { s with stream := .over })
    | .resting _ => some (.modify fun s => { s with stream := .over })
    | .listening session => some (leaveStream session)
    | _ => none
  | .flush =>
    if s.flush = .resting then some (.modify fun s => { s with flush := .over }) else none

/-- What a happening does, if it can come after others. -/
def happen? (past : List Moment) (s : Synchronizer) : Happening → Option (SyncAction Unit)
  | .started => none
  | .move m => s.act? m
  | .outside r => some (.modify fun s => { s with repository := r })
  | .death => if s.isAlive then some die else none
  | .closing => some (pure ())
  | .left who => if past.any (·.what.isClosing) then s.leave? who else none

end Synchronizer

/-- The first moment of a synchronizer: it starts, and asks for a session. -/
def Moment.first (config : SyncConfig) (hasConnector : Bool) (r : Repository) : Moment :=
  let s := Synchronizer.initial config hasConnector r
  ⟨s, .started, Synchronizer.start.run s⟩

/-- What may happen to a synchronizer from its start on, the last moment first, and the synchronizer
then. -/
inductive Course (config : SyncConfig) (hasConnector : Bool) (r : Repository) :
    List Moment → Synchronizer → Prop
  | started : Course config hasConnector r [.first config hasConnector r]
      (.initial config hasConnector r)
  | happened {past : List Moment} {s : Synchronizer} {w : Happening} {a : SyncAction Unit}
      (hpast : Course config hasConnector r past s) (h : s.happen? past w = some a) :
      Course config hasConnector r (⟨s, w, a.run s⟩ :: past) (a.run s).state

/-- What has happened, and the synchronizer then, after one more happening. One that is not possible
is passed over. -/
def goOn (c : List Moment × Synchronizer) (w : Happening) : List Moment × Synchronizer :=
  match c.2.happen? c.1 w with
  | some a => (⟨c.2, w, a.run c.2⟩ :: c.1, (a.run c.2).state)
  | none => c

/-- The course of some happenings, the first one first. -/
def courseOf (config : SyncConfig) (hasConnector : Bool) (r : Repository) (ws : List Happening) :
    List Moment × Synchronizer :=
  ws.foldl goOn ([.first config hasConnector r], .initial config hasConnector r)

theorem course_courseOf (config : SyncConfig) (hasConnector : Bool) (r : Repository)
    (ws : List Happening) :
    Course config hasConnector r (courseOf config hasConnector r ws).1
      (courseOf config hasConnector r ws).2 := by
  have hgoOn : ∀ (ws : List Happening) (c : List Moment × Synchronizer),
      Course config hasConnector r c.1 c.2 →
      Course config hasConnector r (ws.foldl goOn c).1 (ws.foldl goOn c).2 := by
    intro ws
    induction ws with
    | nil => exact fun _ hc => hc
    | cons w ws ih =>
      intro c hc
      refine ih (goOn c w) ?_
      unfold goOn
      split
      · next a ha => exact hc.happened ha
      · exact hc
  exact hgoOn ws _ .started

/-- Both halves of someone's pull are answered. -/
def answersTo (who : Puller) (flags : Except Error (List Flag))
    (segments : Except Error (List Segment)) : List Happening :=
  [.move (.flagsPulled who flags), .move (.askSegments who), .move (.segmentsPulled who segments)]

end FlagReplica
