import FlagReplica.Sync.Apply
/-!
# The synchronizer

Four activities keep a repository in step with the control plane, side by side:

* one authenticates, again and again until it has a session;
* one then pulls all flags and segments, and again at every interval unless the stream is connected;
* one, after the first pull that went well, follows the stream of events, and pulls whenever it has
  connected, to catch up;
* one flushes the store.

An activity is at any time in one of a few states, and where it waits for something, what it waits
for arrives as a `Move`: an answer of the control plane, an item of the stream, the end of a rest. A
move is carried out at once and as a whole, and the moves of different activities may come in any
order. `Synchronizer.act?` says which moves are possible in a state and what they do, so a run of
the synchronizer is a list of moves, each possible when it comes.
-/

namespace FlagReplica

/-- How often the synchronizer does what, in seconds. -/
structure SyncConfig where
  pollInterval : Nat
  /-- By how much a pull may come early. -/
  pollJitter : Nat
  authRetryInterval : Nat
  streamEnabled : Bool
  streamReconnectInterval : Nat
  persistInterval : Nat
  deriving DecidableEq, Repr

/-- What holds unless said otherwise. -/
def SyncConfig.default : SyncConfig where
  pollInterval := 60
  pollJitter := 0
  authRetryInterval := 60
  streamEnabled := true
  streamReconnectInterval := 5
  persistInterval := 60

/-- One half of a pull. -/
inductive Half
  | unasked
  | asked
  /-- It was answered, and what came was stored or not. -/
  | answered (stored : Bool)
  deriving DecidableEq, Repr

/-- A pull on its way. -/
structure Pull where
  flags : Half
  segments : Half
  deriving DecidableEq, Repr

/-- A pull at its start: the flags are asked for. -/
def Pull.start : Pull := ⟨.asked, .unasked⟩

/-- Whether a pull went well, once it is over. -/
def Pull.outcome? (p : Pull) : Option Bool :=
  match p.flags, p.segments with
  | .answered a, .answered b => some (a && b)
  | _, _ => none

/-- The state of authentication. -/
inductive AuthState
  | asking
  | resting
  | over
  deriving DecidableEq, Repr

/-- The state of polling. -/
inductive PollState
  /-- For a session. -/
  | waiting
  | pulling (session : Session) (pull : Pull)
  | resting (session : Session)
  | over
  deriving DecidableEq, Repr

/-- The state of streaming. -/
inductive StreamState
  /-- For a session, and for the first pull that goes well. -/
  | waiting
  | connecting (session : Session)
  | catchingUp (session : Session) (pull : Pull)
  | listening (session : Session)
  /-- What an event announced was asked for. -/
  | fetching (session : Session) (kind : EntityKind) (identifier : String)
  | resting (session : Session)
  | over
  deriving DecidableEq, Repr

/-- The state of flushing. -/
inductive FlushState
  | resting
  | over
  deriving DecidableEq, Repr

/-- The synchronizer with its repository. -/
structure Synchronizer where
  config : SyncConfig
  repository : Repository
  /-- The session, once there is one. -/
  session : Option Session
  /-- How the first synchronization ended, once it has. -/
  readiness : Option (Except Error Unit)
  /-- Whether the stream is connected. -/
  streaming : Bool
  auth : AuthState
  poll : PollState
  stream : StreamState
  flush : FlushState
  deriving Repr

/-- An item of the stream. -/
inductive StreamItem
  | event (e : PushEvent)
  | failure (e : Error)
  | finished
  deriving DecidableEq, Repr

/-- Who pulls. -/
inductive Puller
  | poll
  | stream
  deriving DecidableEq, Repr

/-- An activity that rests now and then. -/
inductive Activity
  | auth
  | poll
  | stream
  | flush
  deriving DecidableEq, Repr

/-- What can happen to the synchronizer. -/
inductive Move
  | authenticated (answer : Except Error Session)
  /-- What polling or streaming waits for is there. -/
  | proceed (who : Puller)
  | askSegments (who : Puller)
  | flagsPulled (who : Puller) (answer : Except Error (List Flag))
  | segmentsPulled (who : Puller) (answer : Except Error (List Segment))
  | connected (answer : Except Error Unit)
  | received (item : StreamItem)
  | flagFetched (answer : Except Error Flag)
  | segmentFetched (answer : Except Error Segment)
  /-- The rest of an activity is over. -/
  | wake (who : Activity)
  /-- Whoever was asked died of it. -/
  | crash
  /-- The synchronizer is told to stop. -/
  | cancel

/-- What is done to a synchronizer. -/
abbrev SyncAction := Action Notice Synchronizer

namespace Synchronizer

/-- A synchronizer at its start. Without a connector there is no stream, and without a store nothing
to flush. -/
def initial (config : SyncConfig) (hasConnector : Bool) (r : Repository) : Synchronizer where
  config
  repository := r
  session := none
  readiness := none
  streaming := false
  auth := .asking
  poll := .waiting
  stream := if hasConnector && config.streamEnabled then .waiting else .over
  flush := if r.hasStore then .resting else .over

/-- Whether any activity goes on. Polling does as long as any does. -/
def isRunning (s : Synchronizer) : Bool := s.poll ≠ .over

/-- Whether the first synchronization went well. -/
def isInitialized (s : Synchronizer) : Bool :=
  match s.readiness with
  | some (.ok ()) => true
  | _ => false

/-- What someone who will not wait any longer for the first synchronization learns of it. -/
def initialization (s : Synchronizer) : Except Error Unit :=
  s.readiness.getD (.error .initializationTimeout)

/-! ## What activities do -/

/-- Writes a line to the log. -/
def log (level : Level) (text : String) : SyncAction Unit := .notify (.log level text)

/-- Asks the control plane for something. -/
def ask (r : Request) : SyncAction Unit := .notify (.requested r)

/-- Works on the repository. -/
def onRepository {α : Type} (a : RepositoryAction α) : SyncAction α :=
  Action.zoom (·.repository) (fun r s => { s with repository := r }) a

/-- Starts the synchronizer: it asks for a session. -/
def start : SyncAction Unit := do
  log .debug "synchronizer started"
  ask .authenticate

/-- Records how the first synchronization ended, unless it has ended before, and says whether it was
recorded. -/
def openReadiness (outcome : Except Error Unit) : SyncAction Bool := .modifyGet fun s =>
  match s.readiness with
  | some _ => (false, s)
  | none => (true, { s with readiness := some outcome })

/-- The state of one who pulls. -/
def setPull (who : Puller) (session : Session) (p : Pull) : SyncAction Unit := .modify fun s =>
  match who with
  | .poll => { s with poll := .pulling session p }
  | .stream => { s with stream := .catchingUp session p }

/-- Begins a pull. -/
def beginPull (who : Puller) (session : Session) : SyncAction Unit := do
  setPull who session .start
  log .debug "pulling flags and segments"
  ask (.fetchFlags session)

/-- Goes on after a pull that is over: polling rests, and streaming listens. -/
def leavePull (who : Puller) (session : Session) : SyncAction Unit := .modify fun s =>
  match who with
  | .poll => { s with poll := .resting session }
  | .stream => { s with stream := .listening session }

/-- Records a half of a pull, and ends the pull if it was the last. -/
def advancePull (who : Puller) (session : Session) (p : Pull) : SyncAction Unit := do
  match p.outcome? with
  | none => setPull who session p
  | some pulled =>
    if pulled then
      if ← openReadiness (.ok ()) then log .info "initialized"
    leavePull who session

/-- Polls, unless the stream is connected. -/
def pollOnce (session : Session) : SyncAction Unit := do
  if (← Action.get).streaming then
    log .trace "stream is connected, skipping poll"
    Action.modify fun s => { s with poll := .resting session }
  else beginPull .poll session

/-- Asks for a connection to the stream. -/
def connect (session : Session) : SyncAction Unit := do
  Action.modify fun s => { s with stream := .connecting session }
  ask (.connect session)

/-- Rests after the stream has ended. -/
def leaveStream (session : Session) : SyncAction Unit :=
  .modify fun s => { s with streaming := false, stream := .resting session }

/-- The request for what an event announced. -/
def pointRequest (session : Session) (identifier : String) : EntityKind → Request
  | .flag => .fetchFlag session identifier
  | .segment => .fetchSegment session identifier

/-- Follows an item of the stream. -/
def follow (session : Session) : StreamItem → SyncAction Unit
  | .event e => do
    match ← onRepository (Repository.receive session.environment e) with
    | none => return ()
    | some kind =>
      Action.modify fun s => { s with stream := .fetching session kind e.identifier }
      ask (pointRequest session e.identifier kind)
  | .failure e => do
    log .warn ("stream failed, polling instead: " ++ e.message)
    leaveStream session
  | .finished => do
    log .info "stream disconnected, polling instead"
    leaveStream session

/-- Listens to the stream. -/
def listen (session : Session) : SyncAction Unit :=
  .modify fun s => { s with stream := .listening session }

/-- The text of a time span. -/
def spanText (seconds : Nat) : String :=
  if seconds = 0 then "0ns" else Text.decimal seconds ++ "s"

/-- Takes the answer to authentication. -/
def finishAuth : Except Error Session → SyncAction Unit
  | .ok session => do
    log .info "authenticated"
    Action.modify fun s => { s with session := s.session.or (some session), auth := .over }
  | .error e => do
    let interval := spanText (← Action.get).config.authRetryInterval
    log .warn ("authentication failed, retrying in " ++ interval ++ ": " ++ e.message)
    Action.modify fun s => { s with auth := .resting }

/-- Takes the answer to a connection. -/
def finishConnect (session : Session) : Except Error Unit → SyncAction Unit
  | .ok () => do
    log .info "stream connected"
    Action.modify fun s => { s with streaming := true }
    beginPull .stream session
  | .error e => do
    log .warn ("failed to connect to stream, polling instead: " ++ e.message)
    Action.modify fun s => { s with stream := .resting session }

/-- Ends all activities. -/
def endAll : SyncAction Unit := do
  Action.modify fun s => { s with auth := .over, poll := .over, stream := .over, flush := .over }
  log .debug "synchronizer thread exited"

/-- Dies. Whoever waits for the first synchronization learns of it, but whether the stream was
connected stays as it was. -/
def die : SyncAction Unit := do
  log .error "synchronizer thread panicked"
  let _ ← openReadiness (.error .synchronizerPanicked)
  endAll

/-- Stops. A connected stream is given up. -/
def stop : SyncAction Unit := do
  Action.modify fun s => { s with streaming := false }
  endAll

/-! ## Moves -/

/-- The session and the pull of one who pulls. -/
def pulling? (s : Synchronizer) : Puller → Option (Session × Pull)
  | .poll => match s.poll with
    | .pulling session p => some (session, p)
    | _ => none
  | .stream => match s.stream with
    | .catchingUp session p => some (session, p)
    | _ => none

/-- How long an activity rests, if it does. -/
def rest? (s : Synchronizer) : Activity → Option Nat
  | .auth => if s.auth = .resting then some s.config.authRetryInterval else none
  | .poll => match s.poll with
    | .resting _ => some s.config.pollInterval
    | _ => none
  | .stream => match s.stream with
    | .resting _ => some s.config.streamReconnectInterval
    | _ => none
  | .flush => if s.flush = .resting then some s.config.persistInterval else none

/-- Whether the synchronizer would take an item of the stream. -/
def holdsStream (s : Synchronizer) : Bool :=
  match s.stream with
  | .catchingUp _ _ => true
  | .listening _ => true
  | .fetching _ _ _ => true
  | _ => false

/-- Whether an answer is awaited. -/
def isAsking (s : Synchronizer) : Bool :=
  let asked := fun (p : Option (Session × Pull)) =>
    p.any fun (_, p) => p.flags = .asked || p.segments = .asked
  let streamAsks := match s.stream with
    | .connecting _ => true
    | .fetching _ _ _ => true
    | _ => false
  s.auth = .asking || asked (s.pulling? .poll) || asked (s.pulling? .stream) || streamAsks

/-- What a move does, if it is possible. -/
def act? (s : Synchronizer) : Move → Option (SyncAction Unit)
  | .authenticated answer => if s.auth = .asking then some (finishAuth answer) else none
  | .proceed .poll =>
    match s.poll, s.session with
    | .waiting, some session => some (pollOnce session)
    | _, _ => none
  | .proceed .stream =>
    match s.stream, s.session, s.readiness with
    | .waiting, some session, some _ => some (connect session)
    | _, _, _ => none
  | .askSegments who =>
    match s.pulling? who with
    | some (session, ⟨flags, .unasked⟩) => some do
      setPull who session ⟨flags, .asked⟩
      ask (.fetchSegments session)
    | _ => none
  | .flagsPulled who answer =>
    match s.pulling? who with
    | some (session, ⟨.asked, segments⟩) => some do
      let stored ← onRepository (Repository.storePulledFlags session.environment answer)
      advancePull who session ⟨.answered stored, segments⟩
    | _ => none
  | .segmentsPulled who answer =>
    match s.pulling? who with
    | some (session, ⟨flags, .asked⟩) => some do
      let stored ← onRepository (Repository.storePulledSegments session.environment answer)
      advancePull who session ⟨flags, .answered stored⟩
    | _ => none
  | .connected answer =>
    match s.stream with
    | .connecting session => some (finishConnect session answer)
    | _ => none
  | .received item =>
    match s.stream with
    | .listening session => some (follow session item)
    | _ => none
  | .flagFetched answer =>
    match s.stream with
    | .fetching session .flag _ => some do
      onRepository (Repository.storeFetched session.environment answer)
      listen session
    | _ => none
  | .segmentFetched answer =>
    match s.stream with
    | .fetching session .segment _ => some do
      onRepository (Repository.storeFetched session.environment answer)
      listen session
    | _ => none
  | .wake .auth =>
    if s.auth = .resting then some do
      Action.modify fun s => { s with auth := .asking }
      ask .authenticate
    else none
  | .wake .poll =>
    match s.poll with
    | .resting session => some (pollOnce session)
    | _ => none
  | .wake .stream =>
    match s.stream with
    | .resting session => some (connect session)
    | _ => none
  | .wake .flush => if s.flush = .resting then some (onRepository Repository.flush) else none
  | .crash => if s.isAsking then some die else none
  | .cancel => if s.isRunning then some stop else none

end Synchronizer

end FlagReplica
