import FlagReplica.Remote.ControlPlane
import FlagReplica.Sync.Client
/-!
# A synchronizer on a clock

`Synchronizer.act?` leaves open which of the possible moves comes next. Here a clock and a control
plane in memory decide it. The control plane answers at once, and a rest takes as long as the
configuration says, so time passes only while nothing else is left to do. Of several moves within
one second that of authentication comes first, then that of polling, of streaming, and of flushing.

What the synchronizer tells is marked with the second at which it does. When it has died the clock
stands still.
-/

namespace FlagReplica

/-- A synchronizer with what it is run against. -/
structure Simulation where
  /-- The second that it is. -/
  now : Nat
  synchronizer : Synchronizer
  plane : ControlPlane
  /-- When the rest of an activity is over, if it rests. -/
  alarm : Activity → Option Nat

/-- What happens in a simulation. The notices are marked with the second. -/
abbrev SimulationAction := Action (Nat × Notice) Simulation

namespace Simulation

/-- The simulation after the synchronizer has done something. Those who began to rest set an alarm.
-/
def withSynchronizer (synchronizer : Synchronizer) (s : Simulation) : Simulation :=
  { s with
    synchronizer
    alarm := fun who => (synchronizer.rest? who).map fun span =>
      (s.alarm who).getD (s.now + span) }

/-- Has the synchronizer do something. -/
def perform {α : Type} (a : SyncAction α) : SimulationAction α := fun s =>
  let o := a.run s.synchronizer
  ⟨o.value, s.withSynchronizer o.state, o.notices.map (s.now, ·)⟩

/-- Changes the control plane. -/
def onPlane (f : ControlPlane → ControlPlane) : SimulationAction Unit :=
  .modify fun s => { s with plane := f s.plane }

/-- A client that starts at second zero, with the notices of its start. -/
def start (config : ClientConfig) (plane : ControlPlane) :
    Except Error Simulation × List (Nat × Notice) :=
  let (created, notices) := Client.create config
  (created.map fun synchronizer =>
      withSynchronizer synchronizer { now := 0, synchronizer, plane, alarm := fun _ => none },
    notices.map (0, ·))

/-! ## Which move comes next -/

/-- The move that comes of a call. -/
def moveOf {α : Type} (s : Simulation) (call : RemoteCall) (answer : Except Error α)
    (move : Except Error α → Move) : Move :=
  match s.plane.reply? call answer with
  | some answer => move answer
  | none => .crash

/-- The next move of one who pulls. The flags are answered before the segments are asked for. -/
def pullMove? (s : Simulation) (who : Puller) : Option Move :=
  (s.synchronizer.pulling? who).map fun (_, pull) =>
    if pull.flags = .asked then s.moveOf .fetchFlags (.ok s.plane.flags) (.flagsPulled who)
    else if pull.segments = .asked then
      s.moveOf .fetchSegments (.ok s.plane.segments) (.segmentsPulled who)
    else .askSegments who

/-- The next move of authentication. -/
def authMove? (s : Simulation) : Option Move :=
  if s.synchronizer.auth = .asking then
    some (s.moveOf .authenticate (.ok s.plane.session) .authenticated)
  else none

/-- The next move of polling. -/
def pollMove? (s : Simulation) : Option Move :=
  match s.synchronizer.poll with
  | .waiting => some (.proceed .poll)
  | _ => s.pullMove? .poll

/-- The next move of streaming. -/
def streamMove? (s : Simulation) : Option Move :=
  match s.synchronizer.stream with
  | .waiting => some (.proceed .stream)
  | .connecting _ => some (s.moveOf .connect (.ok ()) .connected)
  | .listening _ => s.plane.sent.head?.map .received
  | .fetching _ .flag id =>
    some (s.moveOf .fetchFlag (ControlPlane.find id s.plane.flags) .flagFetched)
  | .fetching _ .segment id =>
    some (s.moveOf .fetchSegment (ControlPlane.find id s.plane.segments) .segmentFetched)
  | _ => s.pullMove? .stream

/-- The end of the rest of an activity, if it has come. -/
def wakeMove? (s : Simulation) (who : Activity) : Option Move :=
  if (s.alarm who).any (· ≤ s.now) then some (.wake who) else none

/-- The moves that are up, the first one first. Not all of them need be possible. -/
def moves (s : Simulation) : List Move :=
  [s.authMove?, s.wakeMove? .auth, s.pollMove?, s.wakeMove? .poll, s.streamMove?,
    s.wakeMove? .stream, s.wakeMove? .flush].filterMap id

/-- The next move, with what it does. -/
def next? (s : Simulation) : Option (Move × SyncAction Unit) :=
  s.moves.findSome? fun m => (s.synchronizer.act? m).map (m, ·)

/-! ## The course of time -/

/-- What a move leaves behind where the synchronizer does not look: a new stream, an item less on
the stream, an alarm that went off. -/
def leave (m : Move) (s : Simulation) : Simulation :=
  match m with
  | .connected (.ok ()) => { s with plane := s.plane.openStream }
  | .received _ => { s with plane := { s.plane with sent := s.plane.sent.tail } }
  | .wake who => { s with alarm := fun other => if other = who then none else s.alarm other }
  | _ => s

/-- Makes the next move, if there is one. -/
def advance : SimulationAction Bool := do
  match (← Action.get).next? with
  | none => return false
  | some (m, act) =>
    Action.modify (leave m)
    perform act
    return true

/-- Makes moves, but not more than so many. -/
def advanceTimes : Nat → SimulationAction Unit
  | 0 => return ()
  | n + 1 => do if ← advance then advanceTimes n

/-- More moves than there can be within one second, if no rest is of length zero. Authentication has
two, polling four, streaming five and two for each item of the stream, and flushing one. -/
def patience (s : Simulation) : Nat := 16 + 2 * s.plane.sent.length

/-- Makes all moves that can be made now. -/
def settle : SimulationAction Unit := do advanceTimes (← Action.get).patience

/-- When the alarms are set for. -/
def alarms (s : Simulation) : List Nat :=
  [Activity.auth, .poll, .stream, .flush].filterMap s.alarm

/-- The first alarm after a second and before another. -/
def alarmWithin? (s : Simulation) (after before : Nat) : Option Nat :=
  (s.alarms.filter fun t => after < t ∧ t < before).min?

/-- An alarm within bounds is later than the first of them and earlier than the second. -/
theorem lt_of_alarmWithin? {s : Simulation} {after before t : Nat}
    (h : s.alarmWithin? after before = some t) : after < t ∧ t < before := by
  have hm := List.min?_mem h
  simpa using (List.mem_filter.1 hm).2

/-- The simulation at another second. A synchronizer that has died has no more time. -/
def atSecond (t : Nat) (s : Simulation) : Simulation :=
  if s.synchronizer.isRunning then { s with now := t } else s

/-- Lets time pass up to a second. What begins only then is not part of it. -/
def passUntil (second : Nat) (s : Simulation) : Outcome (Nat × Notice) Simulation Unit :=
  let settled := settle.run s
  match h : settled.state.alarmWithin? s.now second with
  | none => ⟨(), settled.state.atSecond second, settled.notices⟩
  | some t =>
    have := lt_of_alarmWithin? h
    let passed := passUntil second { settled.state with now := t }
    ⟨(), passed.state, settled.notices ++ passed.notices⟩
termination_by second - s.now
decreasing_by show second - t < second - s.now; omega

/-! ## What is done from outside -/

/-- Sends an item on the stream, if there is one and it has a receiver. -/
def push (item : StreamItem) : SimulationAction Bool := .modifyGet fun s =>
  if s.plane.isSending && s.synchronizer.holdsStream then
    (true, { s with plane := s.plane.send item })
  else (false, s)

/-- Ends the stream, if there is one. -/
def endStream : SimulationAction Bool := .modifyGet fun s =>
  if s.plane.isSending then (true, { s with plane := s.plane.endStream }) else (false, s)

end Simulation

end FlagReplica
