import AlertRules.Double.Decimal

/-!
# Numbers of JSON texts

A number is an integer of 64 bits, signed or unsigned, or a finite double. `Numeral` is a number as
it is written; `Numeral.toNumber?` gives its value. Integers are read exactly. Everything else is
read in two roundings: the leading digits that fit 64 bits become a double, which is then multiplied
or divided by a power of ten.
-/

namespace AlertRules.Json

/-- An integer that fits 64 bits, signed or unsigned. -/
structure Integer where
  val : Int
  inRange : -0x8000000000000000 ≤ val ∧ val < 0x10000000000000000
deriving DecidableEq

/-- The integer as one of 64 bits, if it fits. -/
def Integer.ofInt? (n : Int) : Option Integer :=
  if h : -0x8000000000000000 ≤ n ∧ n < 0x10000000000000000 then some ⟨n, h⟩ else none

/-- A number: an exact integer or a finite double. -/
inductive Number
  | integer (n : Integer)
  | double (d : Double)
deriving DecidableEq

namespace Number

/-- The integer of a number that is one in the range of the signed 64-bit integers. -/
def asSigned? : Number → Option Int
  | integer n => if n.val < 0x8000000000000000 then some n.val else none
  | double _ => none

/-- The integer of a number that is one in the range of the unsigned 64-bit integers. -/
def asUnsigned? : Number → Option Int
  | integer n => if 0 ≤ n.val then some n.val else none
  | double _ => none

/-- The double nearest to a number. -/
def asDouble : Number → Double
  | integer n => (Double.ofInt? n.val).getD (Double.zero false)
  | double d => d

/-- The text of a number. -/
def text : Number → String
  | integer n => toString n.val
  | double d => d.jsonText

end Number

/-- A number as it is written: sign, digits before the point, digits after it, and the sign and
digits of the exponent. -/
structure Numeral where
  negative : Bool
  whole : List Nat
  fraction : Option (List Nat)
  exponent : Option (Bool × List Nat)
deriving DecidableEq

namespace Numeral

/-- The largest unsigned integer of 64 bits. -/
def maxSignificand : Nat := 0xffffffffffffffff

/-- The largest signed integer of 32 bits, beyond which exponents are not counted. -/
def maxExponent : Nat := 0x7fffffff

/-- Takes digits into the significand as long as the result is within the limit; the digits from
the first that does not fit on are left over. -/
def absorb (limit significand : Nat) : List Nat → Nat × List Nat
  | [] => (significand, [])
  | d :: rest =>
    if significand * 10 + d ≤ limit then absorb limit (significand * 10 + d) rest
    else (significand, d :: rest)

/-- Divides by `10 ^ places`, in steps of at most `10 ^ 308`. -/
def scaleDown (d : Double) (places : Nat) : Option Double :=
  if d.magnitude = 0 then some d
  else if _h : 308 < places then do
    let divisor ← Double.powerOfTen? 308
    scaleDown (← d.div? divisor) (places - 308)
  else do
    let divisor ← Double.powerOfTen? places
    d.div? divisor
termination_by places
decreasing_by omega

/-- The double nearest to the significand, times a power of ten. -/
def scaled? (significand : Nat) (exponent : Int) : Option Double := do
  let d ← Double.ofInt? significand
  if 0 ≤ exponent then
    if d.magnitude = 0 then some d
    else if 308 < exponent then none
    else d.mul? (← Double.powerOfTen? exponent.toNat)
  else scaleDown d (-exponent).toNat

/-- The size of the number as a double, if it is finite. -/
def size? (n : Numeral) : Option Double :=
  let (whole, left) := absorb maxSignificand 0 n.whole
  let (significand, places) : Nat × Int :=
    match n.fraction with
    | none => (whole, left.length)
    | some digits =>
      let (all, dropped) := absorb maxSignificand whole digits
      (all, (left.length : Int) - (digits.length - dropped.length))
  match n.exponent with
  | none => scaled? significand places
  | some (negative, digits) =>
    let (e, uncounted) := absorb maxExponent 0 digits
    if uncounted ≠ [] then
      if significand ≠ 0 ∧ !negative then none else some (Double.zero false)
    else scaled? significand (if negative then places - e else places + e)

/-- The number a numeral stands for, if it is in range. A whole number with neither point nor
exponent is an integer when it fits, except for minus zero. -/
def toNumber? (n : Numeral) : Option Number :=
  let exact : Nat := n.whole.foldl (fun v d => 10 * v + d) 0
  let value : Int := if n.negative then -(exact : Int) else exact
  if n.fraction = none ∧ n.exponent = none ∧ ¬(n.negative ∧ value = 0) then
    match Integer.ofInt? value with
    | some i => some (.integer i)
    | none => n.size?.map fun d => .double { d with negative := n.negative }
  else n.size?.map fun d => .double { d with negative := n.negative }

end Numeral

end AlertRules.Json
