import FlagReplica.Error
import FlagReplica.Url.Percent
/-!
# Addresses

An address: a scheme, perhaps an authority, a path of segments, perhaps a query and a fragment. Only
addresses whose path can be added to are represented. Everything in an address is kept as it is
written there, percent-encoded.

**A segment added to a path is one segment.** `Url.push` escapes whatever would end it. Two things
it cannot keep: tabs and line ends vanish from it, and a segment that then is one or two dots moves
up the path as it would anywhere else.
-/

namespace FlagReplica

namespace Url

/-- Where an authority is. -/
inductive Host
  | domain (name : String)
  | ipv4 (address : Nat)
  /-- Eight groups of sixteen bits. -/
  | ipv6 (groups : List Nat)
  deriving DecidableEq, Repr, Inhabited

/-- Whom an address names: a host with a port if it is not that of the scheme, and perhaps who
asks. -/
structure Authority where
  user : String
  password : String
  host : Host
  port : Option Nat
  deriving DecidableEq, Repr, Inhabited

end Url

/-- An address. -/
structure Url where
  scheme : String
  authority : Option Url.Authority
  /-- The segments of the path. One empty segment is the root. -/
  path : List String
  query : Option String
  fragment : Option String
  deriving DecidableEq, Repr, Inhabited

namespace Url

/-- The schemes that are known, with their ports. -/
def specialSchemes : List (String × Option Nat) := [
  ("http", some 80), ("https", some 443), ("ws", some 80), ("wss", some 443), ("ftp", some 21),
  ("file", none)]

/-- Whether a scheme is known. -/
def isSpecial (scheme : String) : Bool := (specialSchemes.lookup scheme).isSome

/-- Whether a character goes uncounted in an address. -/
def isIgnored (c : Char) : Bool := c == '\t' || c == '\n' || c == '\r'

/-! ## Paths -/

/-- A dot as it can be written in a path. -/
def dotForms : List String := [".", "%2e", "%2E"]

/-- Whether a segment stands for where it is. -/
def isSingleDot (segment : String) : Bool := dotForms.contains segment

/-- Whether a segment stands for one step up. -/
def isDoubleDot (segment : String) : Bool :=
  (dotForms.flatMap fun a => dotForms.map fun b => a ++ b).contains segment

/-- A path with one more segment, which may be the last one. Dots that are the last leave an empty
segment. No segment counts as the letter of a drive. -/
def addSegment (path : List String) (segment : String) (last : Bool) : List String :=
  if isDoubleDot segment then path.dropLast ++ (if last then [""] else [])
  else if isSingleDot segment then path ++ (if last then [""] else [])
  else path ++ [segment]

/-- The path without an empty segment at its end. The root stays. -/
def dropEmptyLast (path : List String) : List String :=
  if 1 < path.length ∧ path.getLast? = some "" then path.dropLast else path

/-- A segment as a path writes it. -/
def segmentText (special : Bool) (segment : String) : String :=
  String.ofList (encode (segmentEscapes special)
    (utf8 (segment.toList.filter fun c => !isIgnored c)))

/-- The address with one more segment of its path. One or two dots are no segment. -/
def push (u : Url) (segment : String) : Url :=
  if segment = "." ∨ segment = ".." then u
  else
    let path := if u.path = [""] then [] else u.path
    { u with path := addSegment path (segmentText (isSpecial u.scheme) segment) true }

/-- The address with more segments of its path, in the place of an empty one at its end. -/
def extend (u : Url) (segments : List String) : Url :=
  segments.foldl push { u with path := dropEmptyLast u.path }

/-- What a request asks a host for: the path and the query. -/
def target (u : Url) : String :=
  "/" ++ String.intercalate "/" u.path ++ (match u.query with
    | some q => "?" ++ q
    | none => "")

end Url

end FlagReplica
