import FlagReplica.Text.CaseMap
import FlagReplica.Url.Basic
/-!
# Reading addresses

An address from its text, as the standard for addresses has it: blanks at the ends and tabs and line
ends anywhere do not count, schemes that are known take backslashes for slashes and need a host, and
what cannot stand in its place is percent-encoded. Domains are kept in lower case.

Two things of the standard are left out. A domain beyond seven bits is not written in seven bits, and
one that says it is so written is not checked. And the first segment of a file's path is never taken
for the letter of a drive, so it keeps a bar after the letter, and dots move up past it.
-/

namespace FlagReplica.Url

open FlagReplica.Text

/-- The characters of an address that count. -/
def countingChars (s : String) : List Char :=
  let blank (c : Char) : Bool := c.toNat ≤ 0x20
  (((s.toList.dropWhile blank).reverse.dropWhile blank).reverse).filter fun c => !isIgnored c

/-- Whether a character may stand in a scheme after the first. -/
def isSchemeChar (c : Char) : Bool := c.isAlphanum || c == '+' || c == '-' || c == '.'

/-- The scheme of an address, and what follows its colon. -/
def splitScheme? : List Char → Option (String × List Char)
  | [] => none
  | c :: cs =>
    match cs.dropWhile isSchemeChar with
    | ':' :: rest =>
      if c.isAlpha then
        some (String.ofList ((c :: cs.takeWhile isSchemeChar).map Char.toLower), rest)
      else none
    | _ => none

/-- Whether a character is a slash, as the scheme has it. -/
def isSlash (special : Bool) (c : Char) : Bool := c == '/' || (special && c == '\\')

/-- Whether a character ends an authority. -/
def endsAuthority (special : Bool) (c : Char) : Bool := isSlash special c || c == '?' || c == '#'

/-! ## Hosts -/

/-- A number of an address of four bytes, in base ten, eight or sixteen. One that is too large is
no number but a mistake. -/
def ipv4Number? (cs : List Char) : Option (Option Nat) :=
  let (base, digits) := match cs with
    | '0' :: 'x' :: ds => (16, ds)
    | '0' :: 'X' :: ds => (16, ds)
    | '0' :: d :: ds => (8, d :: ds)
    | ds => (10, ds)
  if cs.isEmpty then none
  else if digits.isEmpty then some (some 0)
  else (ofDigits? base digits).map fun n => if n < 0x100000000 then some n else none

/-- The parts of a domain, without an empty one at its end. -/
def domainParts (cs : List Char) : List (List Char) :=
  let parts := cs.splitOn '.'
  if 1 < parts.length ∧ parts.getLast? = some [] then parts.dropLast else parts

/-- Whether a domain can only be an address of four bytes. -/
def endsInNumber (cs : List Char) : Bool :=
  match (domainParts cs).getLast? with
  | some last => (!last.isEmpty && last.all Char.isDigit) || (ipv4Number? last).isSome
  | none => false

/-- The address of four bytes that a text writes: up to four numbers, the last of which fills the
bytes that are left. -/
def ipv4? (cs : List Char) : Option Nat := do
  let numbers ← (domainParts cs).mapM fun part => (ipv4Number? part).bind id
  if 4 < numbers.length then failure
  let last ← numbers.getLast?
  let bytes := numbers.dropLast
  if bytes.any (255 < ·) ∨ 1 <<< (8 * (4 - bytes.length)) ≤ last then failure
  return bytes.foldr (fun b acc => b * 0x1000000 + acc / 256) 0 + last

/-- One of the four numbers at the end of an address of sixteen bytes. -/
def plainByte? (cs : List Char) : Option Nat := do
  let n ← ofDigits? 10 cs
  if n < 256 ∧ (cs.length = 1 ∨ cs.head? ≠ some '0') then some n else none

/-- Groups of sixteen bits. The last two can be written as four bytes. -/
def ipv6Groups? : List (List Char) → Option (List Nat)
  | [] => some []
  | [last] =>
    if last.contains '.' then do
      match ← (last.splitOn '.').mapM plainByte? with
      | [a, b, c, d] => return [a * 256 + b, c * 256 + d]
      | _ => failure
    else if last.length ≤ 4 then (ofDigits? 16 last).map ([·])
    else none
  | g :: gs => do
    if 4 < g.length then failure
    return (← ofDigits? 16 g) :: (← ipv6Groups? gs)

/-- The texts before and after the first two colons in a row, if there are any. -/
def splitGap? : List Char → Option (List Char × List Char)
  | [] => none
  | ':' :: ':' :: cs => some ([], cs)
  | c :: cs => (splitGap? cs).map fun (before, after) => (c :: before, after)

/-- The groups between colons. -/
def groupsOf (cs : List Char) : Option (List Nat) :=
  if cs.isEmpty then some [] else ipv6Groups? (cs.splitOn ':')

/-- The address of sixteen bytes that a text writes. Two colons in a row stand for groups of zero.
-/
def ipv6? (cs : List Char) : Option (List Nat) :=
  match splitGap? cs with
  | none => (groupsOf cs).filter (·.length = 8)
  | some (before, after) => do
    let front ← if before.contains '.' then none else groupsOf before
    let back ← groupsOf after
    if 7 < front.length + back.length then failure
    return front ++ List.replicate (8 - front.length - back.length) 0 ++ back

/-- The characters that no host holds. -/
def forbiddenInHost : List Char :=
  ['\x00', ' ', '#', '/', ':', '<', '>', '?', '@', '[', '\\', ']', '^', '|']

/-- The host of a scheme that is known. Of characters beyond seven bits only the case is settled. -/
def readDomain (cs : List Char) : Except UrlError Host :=
  match String.fromUTF8? ⟨(decode cs).toArray⟩ with
  | none => .error .invalidDomain
  | some decoded =>
    let name := (lowercase decoded).toList
    if name.any fun c => c.toNat < 0x20 || c.toNat == 0x7F || c == '%' || forbiddenInHost.contains c
    then .error .invalidDomain
    else if name.isEmpty then .error .emptyHost
    else if endsInNumber name then
      match ipv4? name with
      | some address => .ok (.ipv4 address)
      | none => .error .invalidIpv4
    else .ok (.domain (String.ofList name))

/-- The host that a text writes. -/
def readHost (scheme : String) (cs : List Char) : Except UrlError Host :=
  match cs with
  | '[' :: inner =>
    if inner.getLast? = some ']' then
      match ipv6? inner.dropLast with
      | some groups => .ok (.ipv6 groups)
      | none => .error .invalidIpv6
    else .error .invalidIpv6
  | [] => if isSpecial scheme ∧ scheme ≠ "file" then .error .emptyHost else .ok (.domain "")
  | cs =>
    if isSpecial scheme then readDomain cs
    else if cs.any forbiddenInHost.contains then .error .invalidDomainCharacter
    else .ok (.domain (String.ofList (encode hostEscapes (utf8 cs))))

/-! ## Authorities -/

/-- The text of a host, and what follows it: from the first colon outside of brackets. -/
def splitHost (inBrackets : Bool) : List Char → List Char × List Char
  | [] => ([], [])
  | c :: cs =>
    if c = ':' ∧ !inBrackets then ([], c :: cs)
    else
      let inBrackets := if c = '[' then true else if c = ']' then false else inBrackets
      let (host, rest) := splitHost inBrackets cs
      (c :: host, rest)

/-- The port that a text writes after its colon. The port of the scheme goes without saying. -/
def readPort (scheme : String) (cs : List Char) : Except UrlError (Option Nat) :=
  if cs.isEmpty then .ok none
  else
    match ofDigits? 10 cs with
    | some n =>
      if 65535 < n then .error .invalidPort
      else if (specialSchemes.lookup scheme).bind id = some n then .ok none
      else .ok (some n)
    | none => .error .invalidPort

/-- The user and the password of an authority, and what follows the last at sign. -/
def splitUser (cs : List Char) : Option (List Char) × List Char :=
  match cs.reverse.span (· != '@') with
  | (after, _ :: before) => (some before.reverse, after.reverse)
  | (_, []) => (none, cs)

/-- The authority that a text writes. A user cannot go without a host. -/
def readAuthority (scheme : String) (cs : List Char) : Except UrlError Authority := do
  let (credentials, rest) := splitUser cs
  let (user, password) := match credentials with
    | none => ([], [])
    | some cs => (cs.takeWhile (· != ':'), (cs.dropWhile (· != ':')).drop 1)
  if credentials.isSome && rest.isEmpty then throw .emptyHost
  let (hostText, portText) := splitHost false rest
  let host ← readHost scheme hostText
  if hostText.isEmpty && !portText.isEmpty then throw .emptyHost
  let port ← readPort scheme (portText.drop 1)
  return {
    user := String.ofList (encode userEscapes (utf8 user))
    password := String.ofList (encode userEscapes (utf8 password))
    host, port }

/-! ## Paths and addresses -/

/-- The segments of a path between its slashes, added one after the other. -/
def readSegments : List (List Char) → List String → List String
  | [], path => path
  | [last], path => addSegment path (String.ofList (encode pathEscapes (utf8 last))) true
  | s :: ss, path =>
    readSegments ss (addSegment path (String.ofList (encode pathEscapes (utf8 s))) false)

/-- The path that a text writes after its first slash. With a scheme that is known there always is a
path. -/
def readPath (special : Bool) (cs : List Char) : List String :=
  let segments (cs : List Char) := readSegments (cs.splitOnP (isSlash special)) []
  match cs with
  | [] => if special then segments [] else []
  | c :: rest => if isSlash special c then segments rest else segments (c :: rest)

/-- The path, the query and the fragment of a text, each as it is written. -/
def splitTail (cs : List Char) : List Char × Option (List Char) × Option (List Char) :=
  let (main, fragment) := cs.span (· != '#')
  let (path, query) := main.span (· != '?')
  (path, if query.isEmpty then none else some (query.drop 1),
    if fragment.isEmpty then none else some (fragment.drop 1))

/-- The address with what follows its authority. -/
def withTail (scheme : String) (authority : Option Authority) (cs : List Char) : Url :=
  let special := isSpecial scheme
  let (path, query, fragment) := splitTail cs
  { scheme, authority
    path := readPath special path
    query := query.map fun q => String.ofList (encode (queryEscapes special) (utf8 q))
    fragment := fragment.map fun f => String.ofList (encode fragmentEscapes (utf8 f)) }

/-- The address with an authority at its start. -/
def withAuthority (scheme : String) (cs : List Char) : Except UrlError Url := do
  let ends := endsAuthority (isSpecial scheme)
  let authority ← readAuthority scheme (cs.takeWhile fun c => !ends c)
  return withTail scheme (some authority) (cs.dropWhile fun c => !ends c)

/-- The address that a text writes. A file has a host only after two slashes, another scheme that is
known has one after any number of them, and an unknown one needs at least one slash. -/
def parse (s : String) : Except UrlError Url :=
  match splitScheme? (countingChars s) with
  | none => .error .relativeWithoutBase
  | some (scheme, rest) =>
    if isSpecial scheme ∧ scheme ≠ "file" then
      withAuthority scheme (rest.dropWhile (isSlash true))
    else
      match rest with
      | a :: b :: cs =>
        if isSlash (isSpecial scheme) a ∧ isSlash (isSpecial scheme) b then withAuthority scheme cs
        else if isSpecial scheme ∨ a = '/' then .ok (withTail scheme none rest)
        else .error .cannotBeBase
      | rest =>
        if isSpecial scheme ∨ rest = ['/'] then .ok (withTail scheme none rest)
        else .error .cannotBeBase

end FlagReplica.Url
