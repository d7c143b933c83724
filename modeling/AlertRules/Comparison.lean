import AlertRules.Json.Value
import AlertRules.Operator
import AlertRules.Pattern
import AlertRules.Text.Search

/-!
# Comparing values

Two values are equal when they say the same: numbers by their size, so that an integer equals the
double of the same size, lists item by item, objects field by field. Only numbers, texts, truth
values and lists have an order, and only among their own kind. The first items of two lists that
are not equal decide their order; if there are none the shorter list is less.

Numbers of the same 64-bit kind are compared exactly; otherwise both are taken as doubles.
-/

namespace AlertRules

open Json

/-- The order of two numbers by size. -/
def Json.Number.order (x y : Number) : Ordering :=
  match x.asSigned?, y.asSigned? with
  | some a, some b => compare a b
  | _, _ =>
    match x.asUnsigned?, y.asUnsigned? with
    | some a, some b => compare a b
    | _, _ => x.asDouble.cmp y.asDouble

namespace Json.Value

mutual

/-- Whether two values are equal. -/
def equal : Value → Value → Bool
  | .null, .null => true
  | .bool a, .bool b => a == b
  | .number x, .number y => x.order y == .eq
  | .string s, .string t => s == t
  | .array xs, .array ys => equalItems xs ys
  | .object xs, .object ys => xs.length == ys.length && equalFields xs ys
  | _, _ => false

/-- Whether two lists are equal item by item. -/
def equalItems : List Value → List Value → Bool
  | [], [] => true
  | x :: xs, y :: ys => equal x y && equalItems xs ys
  | _, _ => false

/-- Whether each of some fields has an equal among others. -/
def equalFields : List (String × Value) → List (String × Value) → Bool
  | [], _ => true
  | (name, x) :: xs, ys =>
    (match field? name ys with
      | some y => equal x y
      | none => false) && equalFields xs ys

end

mutual

/-- The order of two values, if they have one. -/
def order : Value → Value → Option Ordering
  | .number x, .number y => some (x.order y)
  | .string s, .string t => some (compare s t)
  | .bool a, .bool b => some (compare a b)
  | .array xs, .array ys => orderItems xs ys
  | _, _ => none

/-- The order of two lists, decided by the first items that are not equal. -/
def orderItems : List Value → List Value → Option Ordering
  | [], [] => some .eq
  | [], _ :: _ => some .lt
  | _ :: _, [] => some .gt
  | x :: xs, y :: ys => if equal x y then orderItems xs ys else order x y

end

end Json.Value

namespace Operator

/-- Whether two values are texts that are related. -/
def relatesTexts (related : String → String → Bool) : Value → Value → Bool
  | .string s, .string t => related s t
  | _, _ => false

/-- Whether a value stands in the relation of the operator to the expected one. A pattern that is
not accepted is found nowhere. -/
def holds : Operator → (actual expected : Value) → Bool
  | equal, a, b => a.equal b
  | notEqual, a, b => !a.equal b
  | greater, a, b => a.order b == some .gt
  | greaterOrEqual, a, b => (a.order b).any (· != .lt)
  | less, a, b => a.order b == some .lt
  | lessOrEqual, a, b => (a.order b).any (· != .gt)
  | contains, a, b => relatesTexts (fun s t => Text.occursIn t s) a b
  | startsWith, a, b => relatesTexts (fun s t => t.toList.isPrefixOf s.toList) a b
  | endsWith, a, b => relatesTexts (fun s t => t.toList.isSuffixOf s.toList) a b
  | regex, a, b => relatesTexts (fun s t => Pattern.isFoundIn t s) a b
  | member, a, b =>
    match b with
    | .array items => items.any a.equal
    | _ => false

end Operator

end AlertRules
