import AlertRules.Pattern.Footprint
import AlertRules.Pattern.Matching
import AlertRules.Pattern.Reading

/-!
# Patterns

A pattern is a text that describes texts. `compile?` accepts those that are well formed and small
enough; `isFoundIn` says whether one describes some part of a text.
-/

namespace AlertRules.Pattern

/-- The expression of a pattern, if it is well formed and within the limits of depth and size. -/
def compile? (pattern : String) : Option Regex := do
  let r ← Regex.read? pattern
  if r.fits then return r else none

/-- Whether some part of a text is as a pattern says; a pattern that is not accepted says
nothing. -/
def isFoundIn (pattern text : String) : Bool :=
  match compile? pattern with
  | some r => r.isMatch text
  | none => false

end AlertRules.Pattern
