import FlagReplica.Action
import FlagReplica.Flag.Codec
import FlagReplica.Notice
import FlagReplica.Url.Read
/-!
# The control plane over HTTP

What is asked of the control plane and where, and what its answers mean. How a request travels is a
parameter, a `Transport`; everything else is decided here: the address, whether there may be a
request at all, and what becomes of a status and of a body.

**One broken entity costs no other.** A list is read leniently: what cannot be decoded is reported
and left out.
-/

namespace FlagReplica

/-- A request for a document. -/
structure HttpRequest where
  url : Url
  authorization : String
  userAgent : String
  deriving DecidableEq, Repr

/-- An answer to a request. -/
structure HttpResponse where
  status : Nat
  body : String
  deriving DecidableEq, Repr

/-- How a request travels, and what comes back. -/
abbrev Transport := HttpRequest → Except NetworkError HttpResponse

/-- The control plane at an address. -/
structure HttpSource where
  base : Url
  deriving DecidableEq, Repr

/-- What is asked of the control plane, with a log, and may come to nothing. -/
abbrev RemoteAction (σ : Type) := ExceptT Error (Action Notice σ)

namespace HttpSource

variable {σ α : Type}

/-- Where the control plane is unless said otherwise. -/
def defaultBase : String := "https://config.ff.harness.io/api/1.0/"

/-- How requests introduce themselves. -/
def userAgent : String := "ffsync/0.1.0"

/-- The control plane at the address that a text writes. -/
def ofText (base : String) : Except Error HttpSource :=
  match Url.parse base with
  | .ok url => .ok ⟨url⟩
  | .error e => .error (.invalidBaseUrl e)

/-- The name of the collection that holds a kind of thing. -/
def collection : EntityKind → String
  | .flag => "feature-configs"
  | .segment => "target-segments"

/-- Whether a text cannot be a segment of a path, since paths give it a meaning or none. -/
def isUnfit (segment : String) : Bool := segment = "" || segment = "." || segment = ".."

/-- The address of what is found under some segments within the environment of a session. -/
def endpoint (source : HttpSource) (session : Session) (segments : List String) :
    Except Error Url :=
  match (segments ++ [session.environment]).find? isUnfit with
  | some segment => .error (.invalidPathSegment segment)
  | none => .ok (source.base.extend (["client", "env", session.environment] ++ segments))

/-- Whether a token can be sent: it holds no control but the tab. -/
def isSendable (token : String) : Bool :=
  token.toList.all fun c => c = '\t' || (0x20 ≤ c.toNat && c.toNat ≠ 0x7F)

/-- Writes a line to the log. -/
def log (level : Level) (text : String) : RemoteAction σ Unit :=
  ExceptT.lift (.notify (.log level text))

/-- The request for what is at an address. -/
def request (session : Session) (url : Url) : Except Error HttpRequest :=
  if isSendable session.token then
    .ok { url, authorization := "Bearer " ++ session.token, userAgent }
  else .error (.network .builder)

/-- The body of an answer, unless its status means failure. -/
def bodyOf (response : HttpResponse) : RemoteAction σ String := do
  if response.status < 400 ∨ 600 ≤ response.status then return response.body
  else if response.status = 401 ∨ response.status = 403 then
    log .warn "client is not authorized. Check your credentials"
    throw .unauthorized
  else
    log .warn "received non-200 response from remote source: "
    throw (.network (.status response.status))

/-- What is at an address within the environment of a session. -/
def fetch (transport : Transport) (source : HttpSource) (session : Session) (dec : Decoder α)
    (segments : List String) : RemoteAction σ α := do
  let url ← ExceptT.mk (pure (source.endpoint session segments))
  log .debug "fetching from remote source"
  let request ← ExceptT.mk (pure (request session url))
  match transport request with
  | .error cause => throw (.network cause)
  | .ok response =>
    let body ← bodyOf response
    match Decode.text dec body with
    | .ok x => return x
    | .error _ => throw (.network .decode)

/-- The things of a list that could be decoded, with a warning for each that could not. -/
def parsedOnly : List (Except Json α) → Action Notice σ (List α)
  | [] => pure []
  | .ok x :: items => (x :: ·) <$> parsedOnly items
  | .error _ :: items => do
    Action.notify (.log .warn "skipping entity that failed to parse")
    parsedOnly items

/-- The list of a kind of thing. -/
def fetchList (transport : Transport) (source : HttpSource) (session : Session) (kind : EntityKind)
    (dec : Decoder α) : RemoteAction σ (List α) := do
  let items ← fetch transport source session (Decode.list (Decode.lenient dec)) [collection kind]
  ExceptT.lift (parsedOnly items)

/-- The flags of an environment. -/
def fetchFlags (transport : Transport) (source : HttpSource) (session : Session) :
    RemoteAction σ (List Flag) :=
  fetchList transport source session .flag Flag.decoder

/-- The segments of an environment. -/
def fetchSegments (transport : Transport) (source : HttpSource) (session : Session) :
    RemoteAction σ (List Segment) :=
  fetchList transport source session .segment Segment.decoder

/-- The flag of an identifier. -/
def fetchFlag (transport : Transport) (source : HttpSource) (session : Session)
    (identifier : String) : RemoteAction σ Flag :=
  fetch transport source session Flag.decoder [collection .flag, identifier]

/-- The segment of an identifier. -/
def fetchSegment (transport : Transport) (source : HttpSource) (session : Session)
    (identifier : String) : RemoteAction σ Segment :=
  fetch transport source session Segment.decoder [collection .segment, identifier]

end HttpSource

end FlagReplica
