import FlagReplica.Text.CharSet
/-!
# Blanks

The characters that separate words and lines, in the sense of the standard's property
`White_Space`, and texts without the blanks around them.
-/

namespace FlagReplica.Text

/-- The characters with the property `White_Space`. -/
def CharSet.whiteSpace : CharSet :=
  ⟨[(0x9, 0xD), (0x20, 0x20), (0x85, 0x85), (0xA0, 0xA0), (0x1680, 0x1680), (0x2000, 0x200A),
    (0x2028, 0x2029), (0x202F, 0x202F), (0x205F, 0x205F), (0x3000, 0x3000)]⟩

/-- Whether a character is a blank. -/
def isBlank (c : Char) : Bool := CharSet.whiteSpace.contains c

/-- The text without the blanks at its start and end. -/
def trim (cs : List Char) : List Char :=
  (((cs.dropWhile isBlank).reverse).dropWhile isBlank).reverse

end FlagReplica.Text
