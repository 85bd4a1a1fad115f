import FlagReplica.Pattern.Tree
/-!
# Reading patterns

The tree of a pattern's text. Every reader takes the text that is left and gives what it read and
the text after that, or nothing if the text is no pattern; a pattern that looks around itself,
refers back to a group or has an escape that is not known is none.

In the mode of free spacing, blanks and comments are passed over between the parts of a pattern,
also inside of braces and brackets. `skip` is told by its first argument whether that mode is on.
-/

namespace FlagReplica.Pattern

open FlagReplica.Text

/-- The text after blanks and comments. The first argument says whether a comment is open. -/
def skipComments : Bool → List Char → List Char
  | _, [] => []
  | true, c :: cs => skipComments (c != '\n') cs
  | false, c :: cs =>
    if isBlank c then skipComments false cs
    else if c = '#' then skipComments true cs
    else c :: cs

/-- The text after what does not count. -/
def skip (free : Bool) (cs : List Char) : List Char := if free then skipComments false cs else cs

/-- The text after what does not count, if there is more. -/
def skipTo (free : Bool) (cs : List Char) : Option (List Char) :=
  match skip free cs with
  | [] => none
  | rest => some rest

/-! ## Numbers and codes -/

/-- The digits a text starts with, and the rest. -/
def readDigits (free : Bool) : Nat → List Char → List Char × List Char
  | 0, cs => ([], cs)
  | _, [] => ([], [])
  | fuel + 1, c :: cs =>
    if isDigitOf 10 c then
      let (ds, rest) := readDigits free fuel (skip free cs)
      (c :: ds, rest)
    else ([], c :: cs)

/-- A number of thirty-two bits with blanks around it. -/
def readCount (free : Bool) (cs : List Char) : Option (Nat × List Char) := do
  let (ds, rest) := readDigits free cs.length (cs.dropWhile isBlank)
  let n ← ofDigits? 10 ds
  if n < 0x100000000 then some (n, rest.dropWhile isBlank) else none

/-- The character of a code. -/
def charOfCode? (n : Nat) : Option Char :=
  if n < 0xD800 ∨ 0xDFFF < n ∧ n ≤ CharSet.maxCode then some (Char.ofNat n) else none

/-- So many hexadecimal digits. -/
def readHexDigits (free : Bool) : Nat → List Char → Option (List Char × List Char)
  | 0, cs => some ([], cs)
  | _, [] => none
  | n + 1, c :: cs => do
    if !isDigitOf 16 c then failure
    let (ds, rest) ← readHexDigits free n (skip free cs)
    return (c :: ds, rest)

/-- Hexadecimal digits up to a closing brace. -/
def readHexBraced (free : Bool) : Nat → List Char → Option (List Char × List Char)
  | 0, _ => none
  | fuel + 1, cs =>
    match skip free cs with
    | [] => none
    | '}' :: rest => some ([], skip free rest)
    | c :: rest => do
      if !isDigitOf 16 c then failure
      let (ds, rest) ← readHexBraced free fuel rest
      return (c :: ds, rest)

/-- A character by its code, after the letter that says with how many digits: so many, or any number
of them in braces. -/
def readCode (free : Bool) (digits : Nat) (cs : List Char) : Option (Literal × List Char) := do
  match ← skipTo free cs with
  | '{' :: cs =>
    let (ds, rest) ← readHexBraced free (cs.length + 1) cs
    let c ← charOfCode? (← ofDigits? 16 ds)
    return (⟨c, false⟩, rest)
  | cs =>
    let (ds, rest) ← readHexDigits free digits cs
    let c ← charOfCode? (← ofDigits? 16 ds)
    return (⟨c, digits = 2⟩, rest)

/-! ## Escapes -/

/-- What stands for one place or one character. -/
inductive Atom
  | literal (l : Literal)
  | anchor (a : Anchor)
  | set (s : SetTree)

/-- The text up to a closing brace, without what does not count. -/
def readBraced (free : Bool) : Nat → List Char → Option (List Char × List Char)
  | 0, _ => none
  | fuel + 1, cs =>
    match skip free cs with
    | [] => none
    | '}' :: rest => some ([], rest)
    | c :: rest => do
      let (name, rest) ← readBraced free fuel rest
      return (c :: name, rest)

/-- The texts before and after the first occurrence of a mark, if there is one. -/
def splitAtMark? (mark : List Char) : List Char → Option (List Char × List Char)
  | [] => none
  | c :: cs =>
    if mark.isPrefixOf (c :: cs) then some ([], (c :: cs).drop mark.length)
    else (splitAtMark? mark cs).map fun (before, after) => (c :: before, after)

/-- What a text between braces asks for, and whether for its contrary: a value of a property, after
a mark between the two, or a property. -/
def propertyOfName (name : List Char) : Property × Bool :=
  match splitAtMark? ['!', '='] name, splitAtMark? [':'] name, splitAtMark? ['='] name with
  | some (property, value), _, _ => (.valued property value, true)
  | _, some (property, value), _ => (.valued property value, false)
  | _, _, some (property, value) => (.valued property value, false)
  | _, _, _ => (.named name, false)

/-- A property after the letter that asks for one. -/
def readProperty (free negated : Bool) (cs : List Char) : Option (SetTree × List Char) := do
  match ← skipTo free cs with
  | '{' :: cs =>
    let (name, rest) ← readBraced free (cs.length + 1) cs
    let (property, contrary) := propertyOfName name
    return (.property property (negated != contrary), rest)
  | '\\' :: _ => failure
  | c :: cs => return (.property (.named [c]) negated, skip free cs)
  | [] => failure

/-- Whether a character may stand in the name of a boundary. -/
def isBoundaryChar (c : Char) : Bool := c.isAlpha || c == '-'

/-- The characters of a boundary's name. -/
def readBoundaryName (free : Bool) : Nat → List Char → List Char × List Char
  | 0, cs => ([], cs)
  | _, [] => ([], [])
  | fuel + 1, c :: cs =>
    if isBoundaryChar c then
      let (name, rest) := readBoundaryName free fuel (skip free cs)
      (c :: name, rest)
    else ([], c :: cs)

/-- What follows the escape of a word boundary: the name of a boundary in braces, or else braces
that are no concern of the escape. -/
def readBoundary (free : Bool) : List Char → Option (Anchor × List Char)
  | '{' :: cs => do
    let rest ← skipTo free cs
    match rest with
    | c :: _ =>
      if isBoundaryChar c then
        let (name, rest) := readBoundaryName free (rest.length + 1) rest
        let anchor ← [("start".toList, Anchor.wordStart), ("end".toList, .wordEnd),
          ("start-half".toList, .wordStartHalf), ("end-half".toList, .wordEndHalf)].lookup name
        match rest with
        | '}' :: rest => return (anchor, rest)
        | _ => failure
      else return (.wordBoundary, '{' :: cs)
    | [] => failure
  | cs => some (.wordBoundary, cs)

/-- Whether a character may be escaped to stand for itself. -/
def isEscapable (c : Char) : Bool := c.toNat < 0x80 && !c.isAlphanum && c != '<' && c != '>'

/-- What stands after a backslash. -/
def readEscape (free : Bool) : List Char → Option (Atom × List Char)
  | [] => none
  | c :: cs =>
    let literal (d : Char) := some (Atom.literal ⟨d, false⟩, cs)
    let anchor (a : Anchor) := some (Atom.anchor a, cs)
    let shorthand (s : Shorthand) (negated : Bool) := some (Atom.set (.shorthand s negated), cs)
    match c with
    | 'x' => (readCode free 2 cs).map fun (l, rest) => (.literal l, rest)
    | 'u' => (readCode free 4 cs).map fun (l, rest) => (.literal l, rest)
    | 'U' => (readCode free 8 cs).map fun (l, rest) => (.literal l, rest)
    | 'p' => (readProperty free false cs).map fun (s, rest) => (.set s, rest)
    | 'P' => (readProperty free true cs).map fun (s, rest) => (.set s, rest)
    | 'd' => shorthand .digit false
    | 'D' => shorthand .digit true
    | 's' => shorthand .blank false
    | 'S' => shorthand .blank true
    | 'w' => shorthand .word false
    | 'W' => shorthand .word true
    | 'a' => literal '\x07'
    | 'f' => literal '\x0c'
    | 't' => literal '\t'
    | 'n' => literal '\n'
    | 'r' => literal '\r'
    | 'v' => literal '\x0b'
    | 'A' => anchor .textStart
    | 'z' => anchor .textEnd
    | 'b' => (readBoundary free cs).map fun (a, rest) => (.anchor a, rest)
    | 'B' => anchor .notWordBoundary
    | '<' => anchor .wordStart
    | '>' => anchor .wordEnd
    | c => if isEscapable c then literal c else none

/-! ## Sets between brackets -/

/-- A seven-bit class after its opening bracket. -/
def readAsciiClass : List Char → Option (SetTree × List Char)
  | ':' :: cs => do
    let (negated, cs) := match cs with
      | '^' :: cs => (true, cs)
      | cs => (false, cs)
    let members ← asciiClass? (String.ofList (cs.takeWhile (· != ':')))
    match cs.dropWhile (· != ':') with
    | ':' :: ']' :: rest => return (.ascii members negated, rest)
    | _ => failure
  | _ => none

/-- One item of a set: an escape or a character. -/
def readSetAtom (free : Bool) : List Char → Option (Atom × List Char)
  | [] => none
  | '\\' :: cs => readEscape free cs
  | c :: cs => some (.literal ⟨c, false⟩, cs)

/-- An item as a set. Places are no characters. -/
def Atom.asSet? : Atom → Option SetTree
  | .literal l => some (.literal l)
  | .set s => some s
  | _ => none

/-- The range between two items, which have to be characters, the first not after the second. -/
def Atom.range? : Atom → Atom → Option SetTree
  | .literal a, .literal b => if a.char ≤ b.char then some (.range a b) else none
  | _, _ => none

/-- An item or a range of them. A hyphen before another or before the closing bracket makes no
range. -/
def readSetItem (free : Bool) (cs : List Char) : Option (SetTree × List Char) := do
  let (first, rest) ← readSetAtom free cs
  match ← skipTo free rest with
  | '-' :: after =>
    match skip free after with
    | [] => failure
    | c :: more =>
      if c = ']' ∨ c = '-' then return (← first.asSet?, '-' :: after)
      else
        let (last, rest) ← readSetAtom free (c :: more)
        return (← first.range? last, rest)
  | rest => return (← first.asSet?, rest)

/-- The items of a set, the last first, as one. -/
def unionOf (items : List SetTree) : SetTree := joinItems .empty .union items.reverse

/-- A set after an operation that waits for it. -/
def applyWaiting (waiting : Option (SetTree × SetOperation)) (right : SetTree) : SetTree :=
  match waiting with
  | some (left, op) => .operation op left right
  | none => right

/-- The hyphens that a set starts with. -/
def readHyphens (free : Bool) : Nat → List Char → Option (List SetTree × List Char)
  | 0, _ => none
  | fuel + 1, '-' :: cs => do
    let (hyphens, rest) ← readHyphens free fuel (← skipTo free cs)
    return (.literal ⟨'-', false⟩ :: hyphens, rest)
  | _, cs => some ([], cs)

/-- What a set starts with: whether it is negated, and the characters that would mean something
else further on. -/
def readSetHead (free : Bool) (cs : List Char) : Option (Bool × List SetTree × List Char) := do
  let cs ← skipTo free cs
  let (negated, cs) ← match cs with
    | '^' :: cs => do pure (true, ← skipTo free cs)
    | cs => pure (false, cs)
  let (hyphens, cs) ← readHyphens free (cs.length + 1) cs
  match hyphens, cs with
  | [], ']' :: cs => return (negated, [.literal ⟨']', false⟩], ← skipTo free cs)
  | hyphens, cs => return (negated, hyphens, cs)

/-- The items of a set up to its closing bracket, after the items read so far, the last first, and
an operation that waits for them. -/
def readSetItems (free : Bool) : Nat → Option (SetTree × SetOperation) → List SetTree → List Char →
    Option (SetTree × List Char)
  | 0, _, _, _ => none
  | fuel + 1, waiting, items, cs =>
    let operation (op : SetOperation) (rest : List Char) :=
      readSetItems free fuel (some (applyWaiting waiting (unionOf items), op)) [] rest
    match skip free cs with
    | [] => none
    | ']' :: rest => some (applyWaiting waiting (unionOf items), rest)
    | '[' :: rest =>
      match readAsciiClass rest with
      | some (item, rest) => readSetItems free fuel waiting (item :: items) rest
      | none => do
        let (negated, head, rest) ← readSetHead free rest
        let (content, rest) ← readSetItems free fuel none head.reverse rest
        readSetItems free fuel waiting (.bracketed negated content :: items) rest
    | '&' :: '&' :: rest => operation .intersection rest
    | '-' :: '-' :: rest => operation .difference rest
    | '~' :: '~' :: rest => operation .symmetricDifference rest
    | rest => do
      let (item, rest) ← readSetItem free rest
      readSetItems free fuel waiting (item :: items) rest

/-- A set after its opening bracket. -/
def readSet (free : Bool) (cs : List Char) : Option (SetTree × List Char) := do
  let (negated, head, rest) ← readSetHead free cs
  let (content, rest) ← readSetItems free (cs.length + 1) none head.reverse rest
  return (.bracketed negated content, rest)

/-! ## Groups -/

/-- The characters that the standard calls numeric. -/
def numeric : CharSet := CharSet.categories ["Nd", "Nl", "No"]

/-- Whether a character may stand in the name of a group, or start it. -/
def isNameChar (first : Bool) (c : Char) : Bool :=
  c == '_' || alphabetic.contains c ||
    (!first && (c == '.' || c == '[' || c == ']' || numeric.contains c))

/-- The name of a group, up to the angle that closes it. -/
def readGroupName (cs : List Char) : Option (List Char × List Char) :=
  match cs.takeWhile (· != '>'), cs.dropWhile (· != '>') with
  | c :: name, '>' :: rest =>
    if isNameChar true c && name.all (isNameChar false) then some (c :: name, rest) else none
  | _, _ => none

/-- Switches up to a colon or the closing parenthesis, which is given as well. A hyphen, of which
there is one at most, stands before those to be switched off. -/
def readSwitches (on : Bool) (seen : List Mode) :
    List Char → Option (Switches × Char × List Char)
  | [] => none
  | c :: cs =>
    if c = ':' ∨ c = ')' then some ([], c, cs)
    else if c = '-' then
      match on, cs with
      | true, d :: _ => if d = ':' ∨ d = ')' then none else readSwitches false seen cs
      | _, _ => none
    else do
      let m ← Mode.ofChar? c
      if m ∈ seen then failure
      let (switches, stop, rest) ← readSwitches on (m :: seen) cs
      return ((m, on) :: switches, stop, rest)

/-- What an opening parenthesis opens. -/
inductive Opening
  /-- Switches for what follows. -/
  | switches (s : Switches)
  | group (kind : GroupKind)

/-- What follows an opening parenthesis, up to the content of the group. -/
def readOpening (free : Bool) (cs : List Char) : Option (Opening × List Char) :=
  match skip free cs with
  | '?' :: '=' :: _ => none
  | '?' :: '!' :: _ => none
  | '?' :: '<' :: '=' :: _ => none
  | '?' :: '<' :: '!' :: _ => none
  | '?' :: 'P' :: '<' :: rest => (readGroupName rest).map fun (n, rest) => (.group (.named n), rest)
  | '?' :: '<' :: rest => (readGroupName rest).map fun (n, rest) => (.group (.named n), rest)
  | '?' :: rest => do
    let (switches, stop, rest) ← readSwitches true [] rest
    if stop = ':' then return (.group (.plain switches), rest)
    if switches.isEmpty then failure
    return (.switches switches, rest)
  | rest => some (.group .capturing, rest)

/-! ## Repetitions -/

/-- The bounds of a repetition in braces, after the opening one. -/
def readBounds (free : Bool) (cs : List Char) : Option ((Nat × Option Nat) × List Char) := do
  let (min, rest) ← readCount free (← skipTo free cs)
  match rest with
  | '}' :: rest => return ((min, some min), skip free rest)
  | ',' :: rest =>
    match ← skipTo free rest with
    | '}' :: rest => return ((min, none), skip free rest)
    | rest =>
      let (max, rest) ← readCount free rest
      match rest with
      | '}' :: rest => if min ≤ max then return ((min, some max), skip free rest) else failure
      | _ => failure
  | _ => failure

/-- The text after the mark of a repetition that takes little. -/
def dropLazy : List Char → List Char
  | '?' :: rest => rest
  | rest => rest

/-- The items of a sequence, the last first, with the last one repeated. Switches cannot be. -/
def repeatLast (min : Nat) (max : Option Nat) : List Tree → Option (List Tree)
  | [] => none
  | .switches _ :: _ => none
  | t :: ts => some (.repetition min max t :: ts)

/-! ## Patterns -/

/-- An escape as a pattern. -/
def Atom.toTree : Atom → Tree
  | .literal l => .literal l
  | .anchor a => .anchor a
  | .set s => .set s

/-- A character or escape. -/
def readAtom (free : Bool) : List Char → Option (Tree × List Char)
  | [] => none
  | '\\' :: cs => (readEscape free cs).map fun (a, rest) => (a.toTree, rest)
  | '.' :: cs => some (.dot, cs)
  | '^' :: cs => some (.anchor .lineStart, cs)
  | '$' :: cs => some (.anchor .lineEnd, cs)
  | c :: cs => some (.literal ⟨c, false⟩, cs)

/-- The sequence of items, the last first. -/
def sequenceOf (items : List Tree) : Tree := joinItems .empty .sequence items.reverse

/-- The alternation of what has been read, the last alternative first, the items of the one that is
being read apart. -/
def alternationOf (alternatives : List Tree) (items : List Tree) : Tree :=
  joinItems .empty .alternation (sequenceOf items :: alternatives).reverse

/-- The content of a group, up to the parenthesis that closes it or the end of the text. -/
def readContent : Nat → Bool → List Tree → List Tree → List Char → Option (Tree × List Char)
  | 0, _, _, _, _ => none
  | fuel + 1, free, alternatives, items, cs =>
    let repeated (bounds : Nat × Option Nat) (rest : List Char) := do
      let items ← repeatLast bounds.1 bounds.2 items
      readContent fuel free alternatives items (dropLazy rest)
    match skip free cs with
    | [] => some (alternationOf alternatives items, [])
    | ')' :: rest => some (alternationOf alternatives items, ')' :: rest)
    | '|' :: rest => readContent fuel free (sequenceOf items :: alternatives) [] rest
    | '(' :: rest => do
      let (opening, rest) ← readOpening free rest
      match opening with
      | .switches s =>
        readContent fuel ((s.state? .freeSpacing).getD free) alternatives (.switches s :: items)
          rest
      | .group kind =>
        let inner := match kind with
          | .plain s => (s.state? .freeSpacing).getD free
          | _ => free
        let (content, rest) ← readContent fuel inner [] [] rest
        match rest with
        | ')' :: rest => readContent fuel free alternatives (.group kind content :: items) rest
        | _ => failure
    | '[' :: rest => do
      let (s, rest) ← readSet free rest
      readContent fuel free alternatives (.set s :: items) rest
    | '?' :: rest => repeated (0, some 1) rest
    | '*' :: rest => repeated (0, none) rest
    | '+' :: rest => repeated (1, none) rest
    | '{' :: rest => do
      let (bounds, rest) ← readBounds free rest
      repeated bounds rest
    | rest => do
      let (t, rest) ← readAtom free rest
      readContent fuel free alternatives (t :: items) rest

/-- The tree of a pattern's text. -/
def Tree.read? (cs : List Char) : Option Tree := do
  match ← readContent (cs.length + 1) false [] [] cs with
  | (t, []) => if t.isSound then some t else none
  | _ => none

end FlagReplica.Pattern
