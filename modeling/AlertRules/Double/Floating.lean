import AlertRules.Double.Decimal
import AlertRules.Text.Digits

/-!
# Floating-point numbers

Settings and messages may hold floating-point numbers that are not finite. `Floating.read?` reads a
number as people write it, rounded once to the nearest double; a number beyond all doubles is
infinite.
-/

namespace AlertRules

open Text

/-- A floating-point number, finite or not. -/
inductive Floating
  | finite (d : Double)
  | infinite (negative : Bool)
  | notANumber
deriving DecidableEq

namespace Floating

/-- The double that a number is, if it is finite. -/
def finite? : Floating → Option Double
  | finite d => some d
  | infinite _ | notANumber => none

/-- The number `digits · 10 ^ exponent`. A number of more than four hundred places, or less than one
part in as many, need not be computed. -/
def ofDecimal (negative : Bool) (digits : Nat) (exponent : Int) : Floating :=
  let places := exponent + (toString digits).length
  if digits = 0 ∨ places < -400 then .finite (.zero negative)
  else if 400 < places then .infinite negative
  else
    match Double.ofRatio? negative (digits * Nat.pow 10 exponent.toNat)
      (Nat.pow 10 (-exponent).toNat) with
    | some d => .finite d
    | none => .infinite negative

/-- Reads the exponent at the end of a number: nothing, or a letter and an integer. -/
def readExponent? : List Char → Option Int
  | [] => some 0
  | c :: rest =>
    let (negative, digits) := takeSign rest
    if (c = 'e' ∨ c = 'E') ∧ areDigits digits then
      some (if negative then -(natOfDigits digits : Int) else natOfDigits digits)
    else none

/-- Reads digits with or without a point and an exponent. -/
def readDigits? (negative : Bool) (cs : List Char) : Option Floating := do
  let whole := cs.takeWhile Char.isDigit
  let (fraction, rest) :=
    match cs.dropWhile Char.isDigit with
    | '.' :: rest => (rest.takeWhile Char.isDigit, rest.dropWhile Char.isDigit)
    | rest => ([], rest)
  let exponent ← readExponent? rest
  if whole.isEmpty ∧ fraction.isEmpty then none
  else return ofDecimal negative (natOfDigits (whole ++ fraction)) (exponent - fraction.length)

/-- The number a text stands for. Infinity and what is not a number are written as words. -/
def read? (s : String) : Option Floating :=
  let (negative, cs) := takeSign s.toList
  let word := String.ofList (cs.map Char.toLower)
  if word = "inf" ∨ word = "infinity" then some (.infinite negative)
  else if word = "nan" then some .notANumber
  else readDigits? negative cs

/-- The text of a number. -/
def text : Floating → String
  | finite d => d.plainText
  | infinite negative => if negative then "-inf" else "inf"
  | notANumber => "NaN"

/-- The nearest natural number up to a bound, a half away from zero. -/
def roundToNat (bound : Nat) : Floating → Nat
  | finite d => min d.roundAway.toNat bound
  | infinite negative => if negative then 0 else bound
  | notANumber => 0

/-- Whether a number is neither zero nor minus zero. -/
def isNonzero : Floating → Bool
  | finite d => d.magnitude ≠ 0
  | infinite _ | notANumber => true

end Floating

end AlertRules
