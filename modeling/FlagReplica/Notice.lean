/-!
# Notices

What the library tells while it works: a line for the log, a change of what is stored, a variation
that was served, a flush of the store, a request to the control plane.
-/

namespace FlagReplica

/-- How much a line of the log matters. -/
inductive Level
  | trace
  | debug
  | info
  | warn
  | error
  deriving DecidableEq, Repr, Inhabited

/-- The two kinds of things that are kept in step with the control plane. -/
inductive EntityKind
  | flag
  | segment
  deriving DecidableEq, Repr, Inhabited

/-- A change of what is stored. -/
inductive Change
  /-- The thing of an identifier was stored. -/
  | stored (kind : EntityKind) (identifier : String)
  /-- The list of an environment was stored. -/
  | listStored (kind : EntityKind) (environment : String)
  /-- The thing of an identifier was deleted. -/
  | deleted (kind : EntityKind) (identifier : String)
  /-- An identifier was taken off the list of an environment. -/
  | removed (kind : EntityKind) (environment identifier : String)
  deriving DecidableEq, Repr, Inhabited

/-- What the control plane grants on authentication: a token for requests, in one environment. -/
structure Session where
  token : String
  environment : String
  deriving DecidableEq, Repr, Inhabited

/-- What the control plane is asked for. -/
inductive Request
  | authenticate
  | fetchFlags (session : Session)
  | fetchSegments (session : Session)
  | fetchFlag (session : Session) (identifier : String)
  | fetchSegment (session : Session) (identifier : String)
  | connect (session : Session)
  deriving DecidableEq, Repr, Inhabited

/-- What the library tells. -/
inductive Notice
  | log (level : Level) (text : String)
  | changed (change : Change)
  /-- The flag, the target and the variation of an evaluation. -/
  | served (flag target variation : String)
  /-- The store wrote this many entries. -/
  | flushed (entries : Nat)
  | requested (request : Request)
  deriving DecidableEq, Repr, Inhabited

end FlagReplica
