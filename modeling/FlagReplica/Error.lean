import FlagReplica.Json.Decode
/-!
# Errors

What can go wrong outside a single evaluation: the address of the control plane, a request to it,
what it answers, the store. Each error is a cause; `Error.message` words it.
-/

namespace FlagReplica

/-- Why a text is no address. -/
inductive UrlError
  | emptyHost
  | invalidDomain
  | invalidPort
  | invalidIpv4
  | invalidIpv6
  | invalidDomainCharacter
  /-- It has no scheme. -/
  | relativeWithoutBase
  /-- Its path is no sequence of segments that could be added to. -/
  | cannotBeBase
  deriving DecidableEq, Repr, Inhabited

/-- The wording of why a text is no address. -/
def UrlError.message : UrlError → String
  | .emptyHost => "empty host"
  | .invalidDomain => "invalid international domain name"
  | .invalidPort => "invalid port number"
  | .invalidIpv4 => "invalid IPv4 address"
  | .invalidIpv6 => "invalid IPv6 address"
  | .invalidDomainCharacter => "invalid domain character"
  | .relativeWithoutBase => "relative URL without a base"
  | .cannotBeBase => "relative URL with a cannot-be-a-base base"

/-- Why a request came to nothing. -/
inductive NetworkError
  /-- The request could not be built. -/
  | builder
  /-- The answer has a status that means failure. -/
  | status (code : Nat)
  /-- The answer is not what was asked for. -/
  | decode
  /-- There was no answer. -/
  | other
  deriving DecidableEq, Repr, Inhabited

/-- The wording of why a request came to nothing. -/
def NetworkError.message : NetworkError → String
  | .builder => "builder"
  | .status code => "status " ++ Text.decimal code
  | .decode => "decode"
  | .other => "other"

/-- What can go wrong outside a single evaluation. -/
inductive Error
  | invalidBaseUrl (cause : UrlError)
  /-- An identifier that cannot be a segment of a path. -/
  | invalidPathSegment (segment : String)
  | unauthorized
  /-- The first synchronization was not over in time. -/
  | initializationTimeout
  /-- The synchronizer died. -/
  | synchronizerPanicked
  | io (text : String)
  | network (cause : NetworkError)
  /-- A text could not be decoded. -/
  | json (fault : Fault)
  /-- The store failed. -/
  | storage (text : String)
  deriving DecidableEq, Repr

/-- The wording of a fault of a text. Flaws are not worded further. -/
def Fault.message : Fault → String
  | .flaw .truncated => "truncated"
  | .flaw .malformed => "malformed"
  | .mismatch m => m.message

/-- The wording of an error. -/
def Error.message : Error → String
  | .invalidBaseUrl _ => "invalid base_url configuration"
  | .invalidPathSegment segment => "invalid path segment " ++ Text.quoted segment
  | .unauthorized => "unauthorized, api key or session token is likely invalid"
  | .initializationTimeout => "timed out waiting for initialization"
  | .synchronizerPanicked => "synchronizer thread panicked"
  | .io text => text
  | .network cause => cause.message
  | .json fault => fault.message
  | .storage text => "storage error: " ++ text

end FlagReplica
