import Mathlib.Algebra.Order.Ring.Nat
import AlertRules.Double

/-!
# Doubles nearest to integers

The double nearest to a natural number other than zero has the exponent of the number and a
significand of fifty-three bits (`Double.encodeRatio_one`): the number itself with zeros behind it,
or, if it is longer than that, its leading bits rounded. So encodings ascend with the numbers,
within one exponent because rounding does and from one exponent to the next because no significand
is more than the least of the next exponent.

> `Double.nearestRank_mono`: the doubles nearest to integers ascend with the integers; they do so
> strictly up to `2 ^ 53`, where nothing is rounded, and from an integer below zero to one that is
> not.
-/

namespace AlertRules.Double

/-! ## Rounding quotients -/

variable {num den : Nat}

theorem roundQuotient_low (h : 2 * (num % den) < den) : roundQuotient num den = num / den :=
  if_pos h

theorem roundQuotient_high (h : den < 2 * (num % den)) : roundQuotient num den = num / den + 1 := by
  unfold roundQuotient
  dsimp only
  rw [if_neg (by omega), if_pos h]

theorem roundQuotient_tie (h : 2 * (num % den) = den) :
    roundQuotient num den = num / den + num / den % 2 := by
  unfold roundQuotient
  dsimp only
  rw [if_neg (by omega), if_neg (by omega)]

theorem roundQuotient_bounds (num den : Nat) :
    num / den ≤ roundQuotient num den ∧ roundQuotient num den ≤ num / den + 1 := by
  rcases Nat.lt_trichotomy (2 * (num % den)) den with hlow | htie | hhigh
  · rw [roundQuotient_low hlow]
    omega
  · rw [roundQuotient_tie htie]
    omega
  · rw [roundQuotient_high hhigh]
    omega

theorem roundQuotient_one (num : Nat) : roundQuotient num 1 = num := by
  have hlow : 2 * (num % 1) < 1 := by omega
  rw [roundQuotient_low hlow, Nat.div_one]

/-- Rounded quotients ascend with the numbers that are divided. -/
theorem roundQuotient_mono {m n : Nat} (den : Nat) (h : m ≤ n) :
    roundQuotient m den ≤ roundQuotient n den := by
  have hboundm := roundQuotient_bounds m den
  have hboundn := roundQuotient_bounds n den
  have hdiv : m / den ≤ n / den := Nat.div_le_div_right h
  rcases Nat.lt_or_eq_of_le hdiv with hlt | heq
  · omega
  · -- Between the same two integers, the remainders decide.
    have hmod : m % den ≤ n % den := by
      have hm := Nat.div_add_mod m den
      have hn := Nat.div_add_mod n den
      rw [heq] at hm
      omega
    rcases Nat.lt_trichotomy (2 * (m % den)) den with hlow | htie | hhigh
    · rw [roundQuotient_low hlow]
      omega
    · rw [roundQuotient_tie htie, heq]
      rcases Nat.lt_or_eq_of_le hmod with hless | hsame
      · rw [roundQuotient_high (by omega)]
        omega
      · rw [roundQuotient_tie (hsame ▸ htie)]
    · rw [roundQuotient_high hhigh, roundQuotient_high (by omega), heq]

/-! ## Encodings of natural numbers -/

/-- The significand of the double nearest to a number, with its leading bit. -/
def nearestSignificand (n : Nat) : Nat :=
  if 52 ≤ Nat.log2 n then roundQuotient n (2 ^ (Nat.log2 n - 52)) else n * 2 ^ (52 - Nat.log2 n)

variable {m n : Nat}

theorem binaryExponent_one (hn : n ≠ 0) : binaryExponent n 1 = Nat.log2 n := by
  have hlog : Nat.log2 1 = 0 := by decide
  have hreached : 1 <<< Nat.log2 n ≤ n := by
    rw [Nat.one_shiftLeft]
    exact Nat.log2_self_le hn
  unfold binaryExponent
  simp [hlog, hreached]

/-- **The encoding of the double nearest to a number.** -/
theorem encodeRatio_one (hn : n ≠ 0) :
    encodeRatio n 1 = (Nat.log2 n + 1022) * 2 ^ 52 + nearestSignificand n := by
  have hspan : fractionSpan = 2 ^ 52 := rfl
  unfold encodeRatio nearestSignificand
  rw [if_neg (by omega), binaryExponent_one hn, hspan]
  have hscale : ((Nat.log2 n : Int) - 52 + 1074).toNat = Nat.log2 n + 1022 := by omega
  dsimp only
  rw [hscale]
  by_cases hlog : 52 ≤ Nat.log2 n
  · have hshift : Nat.log2 n + 1022 - 1074 = Nat.log2 n - 52 := by omega
    rw [if_pos (by omega), if_pos hlog, hshift, Nat.one_shiftLeft]
  · have hshift : 1074 - (Nat.log2 n + 1022) = 52 - Nat.log2 n := by omega
    rw [if_neg (by omega), if_neg hlog, hshift, Nat.shiftLeft_eq, roundQuotient_one]

/-- Numbers of one exponent and their powers of two. -/
theorem log2_bounds (hn : n ≠ 0) : 2 ^ Nat.log2 n ≤ n ∧ n < 2 ^ Nat.log2 n * 2 := by
  refine ⟨Nat.log2_self_le hn, ?_⟩
  rw [← Nat.pow_succ]
  exact Nat.lt_log2_self

theorem nearestSignificand_bounds (hn : n ≠ 0) :
    2 ^ 52 ≤ nearestSignificand n ∧ nearestSignificand n ≤ 2 ^ 53 := by
  obtain ⟨hle, hlt⟩ := log2_bounds hn
  unfold nearestSignificand
  split
  next hlog =>
    have hsplit : 2 ^ Nat.log2 n = 2 ^ 52 * 2 ^ (Nat.log2 n - 52) := by
      rw [← Nat.pow_add, Nat.add_sub_cancel' hlog]
    rw [hsplit] at hle hlt
    have hpos : 0 < 2 ^ (Nat.log2 n - 52) := Nat.pow_pos (by decide)
    have hround := roundQuotient_bounds n (2 ^ (Nat.log2 n - 52))
    have hlow : 2 ^ 52 ≤ n / 2 ^ (Nat.log2 n - 52) := (Nat.le_div_iff_mul_le hpos).mpr hle
    have hhigh : n / 2 ^ (Nat.log2 n - 52) < 2 ^ 53 := by
      rw [Nat.div_lt_iff_lt_mul hpos]
      omega
    omega
  next hlog =>
    have hsplit : 2 ^ 52 = 2 ^ Nat.log2 n * 2 ^ (52 - Nat.log2 n) := by
      rw [← Nat.pow_add, Nat.add_sub_cancel' (by omega)]
    constructor
    · rw [hsplit]
      exact Nat.mul_le_mul_right _ hle
    · have hdouble : 2 ^ 53 = 2 ^ Nat.log2 n * 2 * 2 ^ (52 - Nat.log2 n) := by
        rw [Nat.mul_right_comm, ← hsplit]
        rfl
      rw [hdouble]
      exact Nat.mul_le_mul_right _ (Nat.le_of_lt hlt)

theorem log2_le_log2 (hm : m ≠ 0) (h : m ≤ n) : Nat.log2 m ≤ Nat.log2 n := by
  have hn : n ≠ 0 := by omega
  have hlt : m < 2 ^ (Nat.log2 n + 1) := Nat.lt_of_le_of_lt h Nat.lt_log2_self
  exact Nat.lt_succ_iff.mp ((Nat.log2_lt hm).mpr hlt)

/-- **Encodings ascend with the numbers.** -/
theorem encodeRatio_one_mono (h : m ≤ n) : encodeRatio m 1 ≤ encodeRatio n 1 := by
  by_cases hm : m = 0
  · subst hm
    exact Nat.zero_le _
  · have hn : n ≠ 0 := by omega
    have hlog := log2_le_log2 hm h
    have hbm := nearestSignificand_bounds hm
    have hbn := nearestSignificand_bounds hn
    rw [encodeRatio_one hm, encodeRatio_one hn]
    rcases Nat.lt_or_eq_of_le hlog with hlt | heq
    · omega
    · have hsignificand : nearestSignificand m ≤ nearestSignificand n := by
        unfold nearestSignificand
        rw [heq]
        split
        · exact roundQuotient_mono _ h
        · exact Nat.mul_le_mul_right _ h
      omega

theorem encodeRatio_one_pos (hn : n ≠ 0) : 0 < encodeRatio n 1 := by
  have hbounds := nearestSignificand_bounds hn
  rw [encodeRatio_one hn]
  omega

/-- A number of sixty-four bits has a nearest double. -/
theorem encodeRatio_one_lt (h : n ≤ 2 ^ 64) : encodeRatio n 1 < 0x7ff0000000000000 := by
  refine Nat.lt_of_le_of_lt (encodeRatio_one_mono h) ?_
  decide +kernel

/-- **Up to `2 ^ 53` nothing is rounded**, so that different numbers have different encodings. -/
theorem encodeRatio_one_strictMono (h : m < n) (hn : n ≤ 2 ^ 53) :
    encodeRatio m 1 < encodeRatio n 1 := by
  have hn₀ : n ≠ 0 := by omega
  by_cases hm : m = 0
  · subst hm
    exact encodeRatio_one_pos hn₀
  · have hlog := log2_le_log2 hm (Nat.le_of_lt h)
    have hlt : Nat.log2 m < 53 := (Nat.log2_lt hm).mpr (by omega)
    obtain ⟨-, hhigh⟩ := log2_bounds hm
    have hbn := nearestSignificand_bounds hn₀
    have hpos : 0 < 2 ^ (52 - Nat.log2 m) := Nat.pow_pos (by decide)
    -- The significand is the number with zeros behind it.
    have hexact : ∀ k, Nat.log2 k = Nat.log2 m →
        nearestSignificand k = k * 2 ^ (52 - Nat.log2 m) := by
      intro k hk
      unfold nearestSignificand
      rw [hk]
      split
      next h52 =>
        have hlog52 : Nat.log2 m = 52 := by omega
        rw [hlog52]
        show roundQuotient k 1 = k * 1
        rw [roundQuotient_one, Nat.mul_one]
      next => rfl
    rw [encodeRatio_one hm, encodeRatio_one hn₀, hexact m rfl]
    rcases Nat.lt_or_eq_of_le hlog with hless | heq
    · have hsplit : 2 ^ 53 = 2 ^ Nat.log2 m * 2 * 2 ^ (52 - Nat.log2 m) := by
        rw [Nat.mul_right_comm, ← Nat.pow_add, Nat.add_sub_cancel' (by omega)]
        rfl
      have hsmall : m * 2 ^ (52 - Nat.log2 m) < 2 ^ 53 := by
        rw [hsplit]
        exact Nat.mul_lt_mul_of_pos_right hhigh hpos
      omega
    · rw [hexact n heq.symm, ← heq]
      exact Nat.add_lt_add_left (Nat.mul_lt_mul_of_pos_right h hpos) _

/-! ## Ranks of integers -/

/-- The rank of the double nearest to an integer. -/
def nearestRank (n : Int) : Int :=
  if n < 0 then -(encodeRatio n.natAbs 1 : Int) else encodeRatio n.natAbs 1

/-- An integer of sixty-four bits has a nearest double. -/
theorem exists_ofInt? {n : Int} (h : n.natAbs ≤ 2 ^ 64) :
    ∃ d, ofInt? n = some d ∧ d.rank = nearestRank n := by
  refine ⟨⟨n < 0, encodeRatio n.natAbs 1, encodeRatio_one_lt h⟩, dif_pos (encodeRatio_one_lt h), ?_⟩
  unfold rank nearestRank
  by_cases hneg : n < 0
  · rw [if_pos (decide_eq_true hneg), if_pos hneg]
  · rw [if_neg (by simpa using hneg), if_neg hneg]

variable {a b : Int}

/-- An integer below zero stays below all others when both are rounded. -/
theorem nearestRank_lt_of_neg (ha : a < 0) (hb : 0 ≤ b) : nearestRank a < nearestRank b := by
  have hpos := encodeRatio_one_pos (n := a.natAbs) (by omega)
  unfold nearestRank
  rw [if_pos ha, if_neg (by omega)]
  omega

/-- **The doubles nearest to integers ascend with the integers.** -/
theorem nearestRank_mono (h : a ≤ b) : nearestRank a ≤ nearestRank b := by
  by_cases ha : a < 0
  · by_cases hb : b < 0
    · have hencode := encodeRatio_one_mono (m := b.natAbs) (n := a.natAbs) (by omega)
      unfold nearestRank
      rw [if_pos ha, if_pos hb]
      omega
    · exact Int.le_of_lt (nearestRank_lt_of_neg ha (by omega))
  · have hencode := encodeRatio_one_mono (m := a.natAbs) (n := b.natAbs) (by omega)
    unfold nearestRank
    rw [if_neg ha, if_neg (by omega)]
    omega

/-- Up to `2 ^ 53` they ascend strictly. -/
theorem nearestRank_strictMono (h : a < b) (ha : a.natAbs ≤ 2 ^ 53) (hb : b.natAbs ≤ 2 ^ 53) :
    nearestRank a < nearestRank b := by
  by_cases hneg : a < 0
  · by_cases hb' : b < 0
    · have hencode := encodeRatio_one_strictMono (m := b.natAbs) (n := a.natAbs) (by omega) ha
      unfold nearestRank
      rw [if_pos hneg, if_pos hb']
      omega
    · exact nearestRank_lt_of_neg hneg (by omega)
  · have hencode := encodeRatio_one_strictMono (m := a.natAbs) (n := b.natAbs) (by omega) hb
    unfold nearestRank
    rw [if_neg hneg, if_neg (by omega)]
    omega

end AlertRules.Double
