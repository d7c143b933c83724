/-!
# Double-precision numbers

A finite double is kept as its sign and its encoded magnitude. Encoded magnitudes ascend with the
numbers they stand for, so two doubles are compared by comparing integers. Arithmetic is exact
rational arithmetic followed by one rounding to the nearest double, ties to the even encoding;
`Double.ofRatio?` is that rounding, and every other operation is built on it.
-/

namespace AlertRules

/-- A finite double-precision number. The encoded magnitude has eleven exponent bits above
fifty-two fraction bits. -/
structure Double where
  negative : Bool
  magnitude : Nat
  isFinite : magnitude < 0x7ff0000000000000
deriving DecidableEq

namespace Double

/-- The distance between the encodings of neighbouring powers of two. -/
def fractionSpan : Nat := 0x10000000000000

/-- The least encoded magnitude that is not finite. -/
def infinite : Nat := 0x7ff0000000000000

/-- The number zero, with a sign. -/
def zero (negative : Bool) : Double := ⟨negative, 0, by decide⟩

/-- The exponent bits of the magnitude. -/
def exponentBits (d : Double) : Nat := d.magnitude / fractionSpan

/-- The integer `m` of the number's size `m · 2 ^ q`. -/
def mantissa (d : Double) : Nat :=
  if d.exponentBits = 0 then d.magnitude else d.magnitude % fractionSpan + fractionSpan

/-- The integer `q` of the number's size `m · 2 ^ q`, plus 1074; it is never negative. -/
def scale (d : Double) : Nat := d.exponentBits - 1

/-- The size of the number as a fraction of natural numbers. -/
def ratio (d : Double) : Nat × Nat := (d.mantissa <<< d.scale, 1 <<< 1074)

/-- The quotient rounded to the nearest integer, a half to the even one. -/
def roundQuotient (num den : Nat) : Nat :=
  let q := num / den
  let r := num % den
  if 2 * r < den then q
  else if den < 2 * r then q + 1
  else q + q % 2

/-- The exponent of the largest power of two that is at most `num / den`. -/
def binaryExponent (num den : Nat) : Int :=
  let guess : Int := (Nat.log2 num : Int) - Nat.log2 den
  let reached : Bool :=
    if 0 ≤ guess then den <<< guess.toNat ≤ num else den ≤ num <<< (-guess).toNat
  if reached then guess else guess - 1

/-- The encoded magnitude nearest to `num / den`, if the quotient does not lie beyond all finite
doubles. -/
def encodeRatio (num den : Nat) : Nat :=
  if num = 0 ∨ den = 0 then 0
  else
    let scale : Nat := (binaryExponent num den - 52 + 1074).toNat
    let m :=
      if 1074 ≤ scale then roundQuotient num (den <<< (scale - 1074))
      else roundQuotient (num <<< (1074 - scale)) den
    scale * fractionSpan + m

/-- The double nearest to a quotient of natural numbers, with the given sign. -/
def ofRatio? (negative : Bool) (num den : Nat) : Option Double :=
  if h : encodeRatio num den < 0x7ff0000000000000 then some ⟨negative, encodeRatio num den, h⟩
  else none

/-- The double nearest to an integer. -/
def ofInt? (n : Int) : Option Double := ofRatio? (n < 0) n.natAbs 1

/-- The product, if it is finite. -/
def mul? (a b : Double) : Option Double :=
  ofRatio? (a.negative != b.negative) (a.ratio.1 * b.ratio.1) (a.ratio.2 * b.ratio.2)

/-- The quotient, if it is finite and the divisor is not zero. -/
def div? (a b : Double) : Option Double :=
  if b.magnitude = 0 then none
  else ofRatio? (a.negative != b.negative) (a.ratio.1 * b.ratio.2) (a.ratio.2 * b.ratio.1)

/-- An integer that ascends with the number; both zeros have the same. -/
def rank (d : Double) : Int := if d.negative then -(d.magnitude : Int) else d.magnitude

/-- The order of the numbers. The two zeros are equal. -/
def cmp (a b : Double) : Ordering := compare a.rank b.rank

/-- The nearest integer, a half away from zero. -/
def roundAway (d : Double) : Int :=
  let (num, den) := d.ratio
  let size : Int := ((2 * num + den) / (2 * den) : Nat)
  if d.negative then -size else size

/-- The double nearest to a power of ten. -/
def powerOfTen? (n : Nat) : Option Double := ofRatio? false (Nat.pow 10 n) 1

end Double

end AlertRules
