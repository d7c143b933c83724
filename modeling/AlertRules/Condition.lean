import AlertRules.Json.Value
import AlertRules.Operator

/-!
# Conditions

A condition is a tree. Its leaves compare one field of an event with a value; a group holds if all
of its children do, or if any of them does. The empty condition stands for one nobody wrote down.
-/

namespace AlertRules

open Json

/-- A comparison of the field at a path with an expected value. -/
structure Comparison where
  field : String
  op : Operator
  value : Value
deriving DecidableEq

/-- A condition on events. -/
inductive Condition
  | comparison (c : Comparison)
  | allOf (children : List Condition)
  | anyOf (children : List Condition)
  | empty

namespace Condition

mutual

/-- Decides the equality of conditions. -/
def decEq : (a b : Condition) → Decidable (a = b)
  | .comparison a, .comparison b => decidable_of_iff (a = b) (by simp)
  | .allOf a, .allOf b | .anyOf a, .anyOf b => @decidable_of_iff _ (a = b) (by simp) (decEqList a b)
  | .empty, .empty => isTrue rfl
  | .comparison _, .allOf _ | .comparison _, .anyOf _ | .comparison _, .empty
  | .allOf _, .comparison _ | .allOf _, .anyOf _ | .allOf _, .empty
  | .anyOf _, .comparison _ | .anyOf _, .allOf _ | .anyOf _, .empty
  | .empty, .comparison _ | .empty, .allOf _ | .empty, .anyOf _ => isFalse (by simp)

/-- Decides the equality of lists of conditions. -/
def decEqList : (a b : List Condition) → Decidable (a = b)
  | [], [] => isTrue rfl
  | [], _ :: _ | _ :: _, [] => isFalse (by simp)
  | a :: as, b :: bs =>
    match decEq a b, decEqList as bs with
    | isTrue h, isTrue hs => isTrue (by rw [h, hs])
    | isFalse h, _ => isFalse (by simp [h])
    | _, isFalse hs => isFalse (by simp [hs])

end

instance : DecidableEq Condition := decEq

mutual

/-- The depth of the tree; a leaf has depth one, and so has a group without children. -/
def depth : Condition → Nat
  | .allOf children | .anyOf children => 1 + depthOfList children
  | .comparison _ | .empty => 1

/-- The depth of the deepest of some conditions. -/
def depthOfList : List Condition → Nat
  | [] => 0
  | c :: rest => max (depth c) (depthOfList rest)

end

/-- Whether this is the empty condition. -/
def isEmpty : Condition → Bool
  | .empty => true
  | _ => false

/-- The deepest condition that is accepted unless another limit is set. -/
def maxDepth : Nat := 64

end Condition

end AlertRules
