/-!
# Digits

Integers as texts of ASCII digits, with a sign where one is allowed.
-/

namespace AlertRules.Text

/-- The number a list of decimal digits stands for. -/
def natOfDigits (digits : List Char) : Nat :=
  digits.foldl (fun n d => 10 * n + (d.toNat - '0'.toNat)) 0

/-- Whether a list is one or more decimal digits. -/
def areDigits (cs : List Char) : Bool := !cs.isEmpty && cs.all Char.isDigit

/-- The sign at the start of a list, and the rest. -/
def takeSign : List Char → Bool × List Char
  | '-' :: rest => (true, rest)
  | '+' :: rest => (false, rest)
  | cs => (false, cs)

/-- The integer a text of digits with or without a sign stands for. -/
def intOfText? (s : String) : Option Int :=
  let (negative, digits) := takeSign s.toList
  if areDigits digits then
    some (if negative then -(natOfDigits digits : Int) else natOfDigits digits)
  else none

/-- The natural number up to a bound that a text of digits stands for. A plus may precede it, a
minus may not. -/
def natOfText? (bound : Nat) (s : String) : Option Nat :=
  let digits :=
    match s.toList with
    | '+' :: rest => rest
    | cs => cs
  if areDigits digits ∧ natOfDigits digits ≤ bound then some (natOfDigits digits) else none

end AlertRules.Text
