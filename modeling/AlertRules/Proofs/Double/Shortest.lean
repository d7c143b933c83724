import Mathlib.Algebra.Order.Ring.Nat
import AlertRules.Double.Decimal

/-!
# Digits of doubles

The search for the fewest digits that read back never ends in zero, unless the number is zero. On a
grid where a candidate reads back, zero is none (`Double.readsBack_zero`). If no candidate did, the
search would end on the grid of seventeen digits, and that is fine enough to have another multiple
than zero below the number: `10 ^ 3 < 2 ^ 10` and `2 ^ 93 < 10 ^ 28` bound what is lost where the
logarithm of two is taken to be `30103 / 100000` (`Double.floorOnGrid_ne_zero`).

> `Double.shortest_digits_ne_zero`: the digits of a number other than zero are not zero.
-/

namespace AlertRules

/-! ## Grids where a candidate reads back -/

theorem Decimal.strip_digits_ne_zero : ∀ {fuel : Nat} {d : Decimal}, d.digits ≠ 0 →
    (strip fuel d).digits ≠ 0
  | 0, _, h => h
  | fuel + 1, d, h => by
    unfold strip
    split
    next hzero =>
      apply strip_digits_ne_zero
      show d.digits / 10 ≠ 0
      omega
    next => exact h

namespace Double

variable {d : Double}

theorem mantissa_pos (hd : d.magnitude ≠ 0) : 0 < d.mantissa := by
  unfold mantissa fractionSpan
  split <;> omega

theorem mantissa_lt : d.mantissa < 2 ^ 53 := by
  unfold mantissa exponentBits fractionSpan
  split <;> omega

theorem scale_le : d.scale ≤ 2045 := by
  have hfinite := d.isFinite
  unfold scale exponentBits fractionSpan
  omega

theorem cmpPowers_zero {x : Nat} (hx : 0 < x) (k e : Int) : cmpPowers 0 k x e = .lt := by
  unfold cmpPowers
  rw [Nat.zero_mul, Nat.zero_shiftLeft, Nat.compare_eq_lt, Nat.shiftLeft_eq]
  exact Nat.mul_pos (Nat.mul_pos hx (Nat.pow_pos (by decide))) (Nat.pow_pos (by decide))

/-- Zero reads back as no other number. -/
theorem readsBack_zero (hd : d.magnitude ≠ 0) (k : Int) : d.readsBack 0 k = false := by
  have hpos := mantissa_pos hd
  have hbelow : (if d.mantissa = fractionSpan ∧ 0 < d.scale then 1 else 2) ≤ 2 := by
    split <;> decide
  unfold readsBack neighbourhood
  dsimp only
  rw [cmpPowers_zero (by omega), cmpPowers_zero (by omega)]

theorem ne_zero_of_onGrid? (hd : d.magnitude ≠ 0) {k : Int} {c : Nat} (h : d.onGrid? k = some c) :
    c ≠ 0 := by
  unfold onGrid? at h
  dsimp only at h
  -- Of the two candidates only the lower one could be zero, and it would not read back.
  have hlow : d.readsBack (floorOnGrid (4 * d.mantissa) ((d.scale : Int) - 1076) k) k = true →
      floorOnGrid (4 * d.mantissa) ((d.scale : Int) - 1076) k ≠ 0 := by
    intro hback hzero
    rw [hzero, readsBack_zero hd] at hback
    exact nomatch hback
  split at h
  next => exact nomatch h
  next hback _ =>
    cases h
    exact hlow hback
  next =>
    cases h
    exact Nat.succ_ne_zero _
  next hback _ =>
    have hpos := hlow hback
    split at h <;> cases h
    · exact hpos
    · exact Nat.succ_ne_zero _
    · exact fun hzero => hpos (Nat.eq_zero_of_add_eq_zero hzero).1

/-! ## Powers of ten and two -/

theorem pow_ten_le {a t : Nat} (h : 10 * a ≤ 3 * t) : 10 ^ a ≤ 2 ^ t := by
  refine (Nat.pow_le_pow_iff_left (n := 10) (by decide)).mp ?_
  calc (10 ^ a) ^ 10 = 10 ^ (10 * a) := by rw [← Nat.pow_mul, Nat.mul_comm]
    _ ≤ 10 ^ (3 * t) := Nat.pow_le_pow_right (by decide) h
    _ = (10 ^ 3) ^ t := Nat.pow_mul ..
    _ ≤ (2 ^ 10) ^ t := Nat.pow_le_pow_left (by decide) t
    _ = (2 ^ t) ^ 10 := by rw [← Nat.pow_mul, ← Nat.pow_mul, Nat.mul_comm]

theorem pow_two_le {s b : Nat} (h : 28 * s ≤ 93 * b) : 2 ^ s ≤ 10 ^ b := by
  refine (Nat.pow_le_pow_iff_left (n := 93) (by decide)).mp ?_
  calc (2 ^ s) ^ 93 = (2 ^ 93) ^ s := by rw [← Nat.pow_mul, ← Nat.pow_mul, Nat.mul_comm]
    _ ≤ (10 ^ 28) ^ s := Nat.pow_le_pow_left (by decide) s
    _ = 10 ^ (28 * s) := (Nat.pow_mul ..).symm
    _ ≤ 10 ^ (93 * b) := Nat.pow_le_pow_right (by decide) h
    _ = (10 ^ b) ^ 93 := by rw [← Nat.pow_mul, Nat.mul_comm]

/-! ## The last grid -/

/-- A grid that is fine enough has a multiple other than zero below the number. -/
theorem floorOnGrid_ne_zero {x : Nat} (hx : x ≠ 0) {e k : Int}
    (hlow : -1100 ≤ (Nat.log2 x : Int) + e) (hhigh : (Nat.log2 x : Int) + e ≤ 1100)
    (hk : k ≤ ((Nat.log2 x : Int) + e) * 30103 / 100000 - 16) : floorOnGrid x e k ≠ 0 := by
  have hlog : 2 ^ Nat.log2 x ≤ x := Nat.log2_self_le hx
  have hgrid : 10 ^ k.toNat * 2 ^ (-e).toNat ≤ 2 ^ Nat.log2 x * 10 ^ (-k).toNat * 2 ^ e.toNat := by
    generalize Nat.log2 x = l at hlow hhigh hk
    by_cases hneg : (l : Int) + e < 0
    · -- All but the powers of ten and two below one cancel.
      have hle : 2 ^ (-((l : Int) + e)).toNat ≤ 10 ^ (-k).toNat := pow_two_le (by omega)
      have hzero : k.toNat = 0 := by omega
      have hzero' : e.toNat = 0 := by omega
      have hten : 10 ^ k.toNat = 1 := by simp [hzero]
      have htwo : 2 ^ e.toNat = 1 := by simp [hzero']
      have hsum : (-e).toNat = l + (-((l : Int) + e)).toNat := by omega
      rw [hten, htwo, hsum, Nat.one_mul, Nat.mul_one, Nat.pow_add]
      exact Nat.mul_le_mul_left _ hle
    · have hle : 10 ^ k.toNat ≤ 2 ^ ((l : Int) + e).toNat := pow_ten_le (by omega)
      have hsum : l + e.toNat = ((l : Int) + e).toNat + (-e).toNat := by omega
      calc 10 ^ k.toNat * 2 ^ (-e).toNat
          ≤ 2 ^ ((l : Int) + e).toNat * 2 ^ (-e).toNat := Nat.mul_le_mul_right _ hle
        _ = 2 ^ l * 2 ^ e.toNat := by rw [← Nat.pow_add, ← Nat.pow_add, hsum]
        _ ≤ 2 ^ l * 10 ^ (-k).toNat * 2 ^ e.toNat :=
          Nat.mul_le_mul_right _ (Nat.le_mul_of_pos_right _ (Nat.pow_pos (by decide)))
  unfold floorOnGrid
  rw [Nat.shiftLeft_eq, Nat.shiftLeft_eq]
  refine Nat.pos_iff_ne_zero.mp (Nat.div_pos ?_ ?_)
  · refine Nat.le_trans hgrid ?_
    exact Nat.mul_le_mul_right _ (Nat.mul_le_mul_right _ hlog)
  · exact Nat.mul_pos (Nat.pow_pos (by decide)) (Nat.pow_pos (by decide))

theorem decimalExponent_le (x : Nat) (e : Int) :
    decimalExponent x e ≤ ((Nat.log2 x : Int) + e) * 30103 / 100000 + 1 := by
  unfold decimalExponent
  dsimp only
  split <;> omega

theorem shortestFrom_digits_ne_zero (hd : d.magnitude ≠ 0) {top : Int}
    (hlast : floorOnGrid (4 * d.mantissa) ((d.scale : Int) - 1076) (top - 17) ≠ 0) :
    ∀ {fuel count : Nat}, count + fuel = 17 → (shortestFrom d top count fuel).digits ≠ 0
  | 0, count, h => by
    obtain rfl : count = 17 := h
    exact hlast
  | fuel + 1, count, h => by
    unfold shortestFrom
    dsimp only
    split
    next c hgrid => exact ne_zero_of_onGrid? hd hgrid
    next => exact shortestFrom_digits_ne_zero hd hlast (by omega)

/-- **The digits of a number other than zero are not zero.** -/
theorem shortest_digits_ne_zero (hd : d.magnitude ≠ 0) : d.shortest.digits ≠ 0 := by
  have hpos := mantissa_pos hd
  have hlt : d.mantissa < 2 ^ 53 := mantissa_lt
  have hscale : d.scale ≤ 2045 := scale_le
  have hlog : Nat.log2 (4 * d.mantissa) < 55 := (Nat.log2_lt (by omega)).mpr (by omega)
  have htop := decimalExponent_le (4 * d.mantissa) ((d.scale : Int) - 1076)
  apply Decimal.strip_digits_ne_zero
  apply shortestFrom_digits_ne_zero hd
  · apply floorOnGrid_ne_zero
    · omega
    · omega
    · omega
    · omega
  · rfl

end Double

end AlertRules
