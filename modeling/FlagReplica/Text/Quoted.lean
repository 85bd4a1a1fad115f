import FlagReplica.Text.CharSet
import FlagReplica.Text.Table.Category
import FlagReplica.Text.Table.Property
/-!
# Quoted text

A text between double quotes, as messages show a value that may hold anything: the quote and the
backslash after a backslash, four control characters by a letter, and whatever would not show, or
would fuse with the quote before it, by its code point in hexadecimal.
-/

namespace FlagReplica.Text

/-- The characters of a general category, by its two-letter name. -/
def CharSet.category (name : String) : CharSet :=
  match Table.categories.find? (·.1 == name) with
  | some (_, _, rows) => ofTable rows
  | none => empty

/-- The characters of any of the categories. -/
def CharSet.categories (names : List String) : CharSet :=
  ofRanges (names.flatMap fun name => (category name).ranges)

/-- Every code point with a general category. -/
def CharSet.assigned : CharSet :=
  ofRanges (Table.categories.flatMap fun row => (ofTable row.2.2).ranges)

/-- The characters that continue the one before them. -/
def CharSet.graphemeExtend : CharSet := ofTable Table.graphemeExtend

/-- The characters without a visible shape of their own: unassigned code points, controls, formats,
private use, and separators other than the space. -/
def CharSet.invisible : CharSet :=
  diff (union (categories ["Cc", "Cf", "Co", "Zl", "Zp", "Zs"]) (compl assigned)) (singleton 0x20)

/-- Whether a character is written by its code point. -/
def needsCode (c : Char) : Bool :=
  CharSet.graphemeExtend.contains c || CharSet.invisible.contains c

/-- A character as it is written between the quotes. -/
def quotedChar (c : Char) : String :=
  if c = '\x00' then "\\0"
  else if c = '\t' then "\\t"
  else if c = '\r' then "\\r"
  else if c = '\n' then "\\n"
  else if c = '"' then "\\\""
  else if c = '\\' then "\\\\"
  else if 0x20 ≤ c.toNat && c.toNat < 0x7F then c.toString
  else if needsCode c then "\\u\x7b" ++ hex c.toNat ++ "\x7d"
  else c.toString

/-- The text between quotes. -/
def quoted (s : String) : String :=
  "\"" ++ String.join (s.toList.map quotedChar) ++ "\""

end FlagReplica.Text
