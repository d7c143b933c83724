import AlertRules.Double

/-!
# Decimal texts of doubles

`Double.shortest` finds the fewest decimal digits that read back as the number; of several
candidates of that length, the nearest. Two layouts of those digits follow: the one of JSON texts,
with an exponent for large and small numbers, and one that always writes all places.
-/

namespace AlertRules

/-- The positive number `digits · 10 ^ exponent`. -/
structure Decimal where
  digits : Nat
  exponent : Int
deriving DecidableEq

/-- Takes zeros at the end of the digits into the exponent, `fuel` of them at most. -/
def Decimal.strip : (fuel : Nat) → Decimal → Decimal
  | 0, d => d
  | fuel + 1, d =>
    if d.digits ≠ 0 ∧ d.digits % 10 = 0 then strip fuel ⟨d.digits / 10, d.exponent + 1⟩ else d

namespace Double

/-- Compares `c · 10 ^ k` with `x · 2 ^ e`. -/
def cmpPowers (c : Nat) (k : Int) (x : Nat) (e : Int) : Ordering :=
  compare ((c * Nat.pow 10 k.toNat) <<< (-e).toNat) ((x * Nat.pow 10 (-k).toNat) <<< e.toNat)

/-- The exponent of the largest power of ten that is at most `x · 2 ^ e`. -/
def decimalExponent (x : Nat) (e : Int) : Int :=
  let guess : Int := ((Nat.log2 x : Int) + e) * 30103 / 100000
  if cmpPowers 1 (guess + 1) x e = .gt then guess else guess + 1

/-- The integer part of `x · 2 ^ e / 10 ^ k`. -/
def floorOnGrid (x : Nat) (e k : Int) : Nat :=
  ((x * Nat.pow 10 (-k).toNat) <<< e.toNat) / (Nat.pow 10 k.toNat <<< (-e).toNat)

/-- The bounds of the numbers that round to a double, in quarters of its last place: the double
itself, the lower and the upper bound, the exponent of two they are multiples of, and whether the
bounds round to the double too. -/
def neighbourhood (d : Double) : Nat × Nat × Nat × Int × Bool :=
  let m := d.mantissa
  let below := if m = fractionSpan ∧ 0 < d.scale then 1 else 2
  (4 * m, 4 * m - below, 4 * m + 2, (d.scale : Int) - 1076, m % 2 = 0)

/-- Whether `c · 10 ^ k` rounds to the double. -/
def readsBack (d : Double) (c : Nat) (k : Int) : Bool :=
  let (_, lower, upper, e, bounds) := d.neighbourhood
  match cmpPowers c k lower e, cmpPowers c k upper e with
  | .gt, .lt => true
  | .eq, _ => bounds
  | _, .eq => bounds
  | _, _ => false

/-- The multiple of `10 ^ k` that reads back as the double, if there is one; of two, the nearer. -/
def onGrid? (d : Double) (k : Int) : Option Nat :=
  let (x, _, _, e, _) := d.neighbourhood
  let low := floorOnGrid x e k
  match readsBack d low k, readsBack d (low + 1) k with
  | false, false => none
  | true, false => some low
  | false, true => some (low + 1)
  | true, true =>
    match cmpPowers (2 * low + 1) k (2 * x) e with
    | .gt => some low
    | .lt => some (low + 1)
    | .eq => some (low + low % 2)

/-- Tries grids of `count`, `count + 1`, … digits, `fuel` of them, below the decimal exponent. -/
def shortestFrom (d : Double) (top : Int) : (count fuel : Nat) → Decimal
  | count, 0 =>
    let k := top - count
    let (x, _, _, e, _) := d.neighbourhood
    ⟨floorOnGrid x e k, k⟩
  | count, fuel + 1 =>
    let k := top - count
    match d.onGrid? k with
    | some c => ⟨c, k⟩
    | none => shortestFrom d top (count + 1) fuel

/-- The size of a number other than zero in the fewest digits that read back; seventeen digits
always do. -/
def shortest (d : Double) : Decimal :=
  let (x, _, _, e, _) := d.neighbourhood
  Decimal.strip 20 (shortestFrom d (decimalExponent x e) 0 17)

/-- A run of zeros. -/
def zeros (n : Nat) : String := String.ofList (List.replicate n '0')

/-- The digits, with a point after the first `whole` of them, which may be more than there are or
fewer than one. Digits that fill up to the point are zeros. -/
def pointed (digits : String) (whole : Int) : String :=
  if whole ≤ 0 then "0." ++ zeros (-whole).toNat ++ digits
  else if digits.length ≤ whole.toNat then digits ++ zeros (whole.toNat - digits.length)
  else String.ofList (digits.toList.take whole.toNat) ++ "." ++
    String.ofList (digits.toList.drop whole.toNat)

/-- The sign of a number as it is written. -/
def signText (d : Double) : String := if d.negative then "-" else ""

/-- The text of a number in JSON: all places when the first digit stands between the places
`10 ^ -5` and `10 ^ 15`, else one digit before the point and a signed exponent. A point is never
left out of the first form. -/
def jsonText (d : Double) : String :=
  if d.magnitude = 0 then d.signText ++ "0.0"
  else
    let dec := d.shortest
    let digits := toString dec.digits
    let first : Int := dec.exponent + digits.length - 1
    if -5 ≤ first ∧ first ≤ 15 then
      d.signText ++ pointed digits (first + 1) ++ (if digits.length ≤ first + 1 then ".0" else "")
    else
      d.signText ++ (if digits.length = 1 then digits else pointed digits 1) ++ "e" ++
        (if first < 0 then "-" else "+") ++ toString first.natAbs

/-- The text of a number with all its places and no point after an integer. -/
def plainText (d : Double) : String :=
  if d.magnitude = 0 then d.signText ++ "0"
  else
    let dec := d.shortest
    let digits := toString dec.digits
    d.signText ++ pointed digits (dec.exponent + digits.length)

end Double

end AlertRules
