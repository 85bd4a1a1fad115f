import FlagReplica.Json.Codec
/-!
# Push events

Short messages of the control plane that something changed: of which kind, how, its identifier and
the version it now has. Kinds that are not known are kept as such, and the events about them
ignored.
-/

namespace FlagReplica

open Decode

/-- What kind of thing changed. -/
inductive EventDomain
  | flag
  | segment
  /-- Something that is not replicated. -/
  | unknown
  deriving DecidableEq, Repr, Inhabited

/-- How it changed. -/
inductive EventKind
  | create
  | update
  | delete
  deriving DecidableEq, Repr, Inhabited

/-- The message that something changed. -/
structure PushEvent where
  domain : EventDomain
  event : EventKind
  identifier : String
  version : Int64
  deriving DecidableEq, Repr, Inhabited

/-- How messages name the kind of thing. -/
def EventDomain.label : EventDomain → String
  | .flag => "Flag"
  | .segment => "TargetSegment"
  | .unknown => "Unknown"

/-- How messages name the change. -/
def EventKind.label : EventKind → String
  | .create => "Create"
  | .update => "Update"
  | .delete => "Delete"

/-- Reads the kind of thing. Any name is one, and a segment has two. -/
def EventDomain.decoder : Decoder EventDomain :=
  choice (fun s => .ok <|
    if s = "flag" then .flag
    else if s = "target-segment" ∨ s = "segment" then .segment
    else .unknown) noBody

/-- Writes the kind of thing. -/
def EventDomain.encode : EventDomain → Json
  | .flag => .string "flag"
  | .segment => .string "target-segment"
  | .unknown => .string "unknown"

/-- The changes with their names, of which an update has two. -/
def EventKind.names : List (String × EventKind) :=
  [("create", .create), ("patch", .update), ("update", .update), ("delete", .delete)]

/-- Reads the change. -/
def EventKind.decoder : Decoder EventKind := named (names.map (·.1)) (List.lookup · names)

/-- Writes the change. -/
def EventKind.encode : EventKind → Json
  | .create => .string "create"
  | .update => .string "update"
  | .delete => .string "delete"

/-- Reads an event. -/
def PushEvent.decoder : Decoder PushEvent :=
  record "struct PushEvent"
    (.cons "domain" EventDomain.decoder .required <|
      .cons "event" EventKind.decoder .required <|
      .cons "identifier" string .required <|
      .cons "version" int64 (.default 0) .nil)
    fun (domain, event, identifier, version, ()) => { domain, event, identifier, version }

/-- Writes an event. -/
def PushEvent.encode (e : PushEvent) : Json := .ofFields [
  ("domain", some e.domain.encode), ("event", some e.event.encode),
  ("identifier", some (.string e.identifier)), ("version", some (.ofInt e.version.toInt))]

end FlagReplica
