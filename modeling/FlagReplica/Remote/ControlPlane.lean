import FlagReplica.Sync.Synchronizer
/-!
# A control plane in memory

A control plane that is a value: what it holds can be changed between two calls, any of its calls
can be refused or be the caller's death, and the stream that it sends on is a queue. Against it a
synchronizer can be run and watched.
-/

namespace FlagReplica

/-- What a control plane is called for. -/
inductive RemoteCall
  | authenticate
  | fetchFlags
  | fetchSegments
  | fetchFlag
  | fetchSegment
  | connect
  deriving DecidableEq, Repr

/-- A control plane for one environment. -/
structure ControlPlane where
  environment : String
  flags : List Flag
  segments : List Segment
  /-- The calls that are answered with a refusal. -/
  refused : List RemoteCall
  /-- The calls that are never answered, since whoever makes them dies. -/
  fatal : List RemoteCall
  /-- Whether there is a stream to send on. It need not have a receiver any more. -/
  isSending : Bool
  /-- What was sent on the stream and not received yet. -/
  sent : List StreamItem
  deriving Repr

namespace ControlPlane

/-- A control plane that answers every call and has no stream yet. -/
def ofLists (environment : String) (flags : List Flag) (segments : List Segment) : ControlPlane :=
  { environment, flags, segments, refused := [], fatal := [], isSending := false, sent := [] }

section Records

variable {α : Type} [Record α]

open Record (identifier)

/-- A list with a thing in the place of the first one of its identifier, or at the end. -/
def replaced (x : α) : List α → List α
  | [] => [x]
  | y :: ys => if identifier y = identifier x then x :: ys else y :: replaced x ys

/-- A list without the things of an identifier. -/
def without (id : String) (xs : List α) : List α := xs.filter fun x => identifier x ≠ id

/-- The first thing of an identifier. Others may not be asked for. -/
def find (id : String) (xs : List α) : Except Error α :=
  match xs.find? fun x => identifier x = id with
  | some x => .ok x
  | none => .error .unauthorized

end Records

/-- Puts a flag in the place of the one of its identifier. -/
def putFlag (f : Flag) (p : ControlPlane) : ControlPlane := { p with flags := replaced f p.flags }

/-- Puts a segment in the place of the one of its identifier. -/
def putSegment (s : Segment) (p : ControlPlane) : ControlPlane :=
  { p with segments := replaced s p.segments }

/-- Removes a flag. -/
def removeFlag (id : String) (p : ControlPlane) : ControlPlane :=
  { p with flags := without id p.flags }

/-- Removes a segment. -/
def removeSegment (id : String) (p : ControlPlane) : ControlPlane :=
  { p with segments := without id p.segments }

/-- What comes of a call that would be answered so. There is no answer to a fatal one. -/
def reply? {α : Type} (p : ControlPlane) (call : RemoteCall) (answer : Except Error α) :
    Option (Except Error α) :=
  if call ∈ p.fatal then none
  else if call ∈ p.refused then some (.error .unauthorized)
  else some answer

/-- The session that is granted. -/
def session (p : ControlPlane) : Session := ⟨"token", p.environment⟩

/-- A new stream in the place of the one before. -/
def openStream (p : ControlPlane) : ControlPlane := { p with isSending := true, sent := [] }

/-- Sends an item. -/
def send (item : StreamItem) (p : ControlPlane) : ControlPlane :=
  { p with sent := p.sent ++ [item] }

/-- Stops sending. What was sent can still be received, and then that the stream has ended. -/
def endStream (p : ControlPlane) : ControlPlane := { p.send .finished with isSending := false }

end ControlPlane

end FlagReplica
