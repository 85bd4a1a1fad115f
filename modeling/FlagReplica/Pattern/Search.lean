import FlagReplica.Pattern.Read
import FlagReplica.Pattern.Size
/-!
# Searching

Whether a pattern is found in a text. A text that is no pattern, or one too large, finds nothing,
and does not even fail to: `search?` has no answer then.
-/

namespace FlagReplica.Pattern

/-- The pattern that a text writes. -/
def compile? (pattern : String) : Option Expr := do
  let t ← Tree.read? pattern.toList
  let (e, _) ← t.toExpr? Modes.initial
  if e.isSmall then some e else none

/-- Whether a pattern is found in a text. -/
def search? (pattern text : String) : Option Bool :=
  (compile? pattern).map fun e => e.isFoundIn text.toList

end FlagReplica.Pattern
