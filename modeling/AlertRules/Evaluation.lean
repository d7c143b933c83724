import AlertRules.Comparison
import AlertRules.Condition
import AlertRules.FieldPath

/-!
# Evaluating conditions

Whether a condition holds of an event. Every condition holds or does not: a field that is missing,
values that cannot be compared, and a pattern that is not accepted only make the comparison fail.
-/

namespace AlertRules

open Json

/-- Whether a comparison holds of an event; of a missing field none does. -/
def Comparison.holds (c : Comparison) (event : Value) : Bool :=
  match event.resolve c.field with
  | some v => c.op.holds v c.value
  | none => false

namespace Condition

mutual

/-- Whether a condition holds of an event. -/
def holds (event : Value) : Condition → Bool
  | .comparison c => c.holds event
  | .allOf children => allHold event children
  | .anyOf children => anyHolds event children
  | .empty => false

/-- Whether all of some conditions hold of an event. -/
def allHold (event : Value) : List Condition → Bool
  | [] => true
  | c :: rest => holds event c && allHold event rest

/-- Whether any of some conditions holds of an event. -/
def anyHolds (event : Value) : List Condition → Bool
  | [] => false
  | c :: rest => holds event c || anyHolds event rest

end

end Condition

end AlertRules
