import AlertRules.Comparison
import AlertRules.Proofs.Double.Nearest

/-!
# Numbers by size

Two integers are compared as they are, whatever their kinds (`Number.order_integer`): if neither
kind of sixty-four bits has both, one is negative and the other is not, and stays so when both are
rounded. A double is compared with the double nearest to the other number. That is where size is
lost: rounding may take an integer to a double that is another integer's too.

So the order of numbers always is transitive (`Number.order_trans`), but numbers that equal each
other need not be alike beside a third. They are if no double at hand stands for two integers, which
is what `KeepsApart` says of a set of numbers (`KeepsApart.order_congr`).
-/

namespace AlertRules.Json

theorem Integer.eq_of_val : ∀ {m n : Integer}, m.val = n.val → m = n
  | ⟨_, _⟩, ⟨_, _⟩, rfl => rfl

namespace Number

/-- The rank of the double nearest to a number. -/
def rank (x : Number) : Int := x.asDouble.rank

variable {x y z : Number} {o : Ordering}

/-! ## Routes of a comparison -/

theorem rank_integer (n : Integer) : (integer n).rank = Double.nearestRank n.val := by
  have hrange := n.inRange
  obtain ⟨d, hd, hrank⟩ := Double.exists_ofInt? (n := n.val) (by omega)
  show ((Double.ofInt? n.val).getD (Double.zero false)).rank = Double.nearestRank n.val
  rw [hd, Option.getD_some, hrank]

theorem asSigned?_eq_some {a : Int} :
    x.asSigned? = some a ↔ ∃ n, x = integer n ∧ n.val = a ∧ a < 0x8000000000000000 := by
  cases x with
  | double d => simp [asSigned?]
  | integer n =>
    simp only [asSigned?, Option.ite_none_right_eq_some, Option.some.injEq, integer.injEq]
    constructor
    · rintro ⟨hlt, rfl⟩
      exact ⟨n, rfl, rfl, hlt⟩
    · rintro ⟨m, rfl, rfl, hlt⟩
      exact ⟨hlt, rfl⟩

theorem asUnsigned?_eq_some {a : Int} :
    x.asUnsigned? = some a ↔ ∃ n, x = integer n ∧ n.val = a ∧ 0 ≤ a := by
  cases x with
  | double d => simp [asUnsigned?]
  | integer n =>
    simp only [asUnsigned?, Option.ite_none_right_eq_some, Option.some.injEq, integer.injEq]
    constructor
    · rintro ⟨hle, rfl⟩
      exact ⟨n, rfl, rfl, hle⟩
    · rintro ⟨m, rfl, rfl, hle⟩
      exact ⟨hle, rfl⟩

/-- **The routes of a comparison**: two integers of one kind are compared exactly, and other numbers
by the doubles nearest to them. Integers share no kind only if one is negative and the other beyond
the signed ones. -/
theorem order_routes (x y : Number) :
    (∃ m n, x = integer m ∧ y = integer n ∧ x.order y = compare m.val n.val) ∨
    (∀ m n, x = integer m → y = integer n →
      m.val < 0 ∧ 0x8000000000000000 ≤ n.val ∨ n.val < 0 ∧ 0x8000000000000000 ≤ m.val) ∧
        x.order y = compare x.rank y.rank := by
  unfold order
  split
  next a b ha hb =>
    obtain ⟨m, rfl, rfl, -⟩ := asSigned?_eq_some.mp ha
    obtain ⟨n, rfl, rfl, -⟩ := asSigned?_eq_some.mp hb
    exact .inl ⟨m, n, rfl, rfl, rfl⟩
  next hsigned =>
    split
    next a b ha hb =>
      obtain ⟨m, rfl, rfl, -⟩ := asUnsigned?_eq_some.mp ha
      obtain ⟨n, rfl, rfl, -⟩ := asUnsigned?_eq_some.mp hb
      exact .inl ⟨m, n, rfl, rfl, rfl⟩
    next hunsigned =>
      refine .inr ⟨fun m n hx hy => ?_, rfl⟩
      have hnotSigned : ¬(m.val < 0x8000000000000000 ∧ n.val < 0x8000000000000000) :=
        fun ⟨hm, hn⟩ => hsigned _ _ (asSigned?_eq_some.mpr ⟨m, hx, rfl, hm⟩)
          (asSigned?_eq_some.mpr ⟨n, hy, rfl, hn⟩)
      have hnotUnsigned : ¬(0 ≤ m.val ∧ 0 ≤ n.val) := fun ⟨hm, hn⟩ =>
        hunsigned _ _ (asUnsigned?_eq_some.mpr ⟨m, hx, rfl, hm⟩)
          (asUnsigned?_eq_some.mpr ⟨n, hy, rfl, hn⟩)
      omega

/-- **Two integers are compared exactly.** -/
theorem order_integer (m n : Integer) : (integer m).order (integer n) = compare m.val n.val := by
  rcases order_routes (integer m) (integer n) with ⟨m', n', hm, hn, hexact⟩ | ⟨hapart, hranks⟩
  · cases hm
    cases hn
    exact hexact
  · rw [hranks, rank_integer, rank_integer]
    -- What is negative stays less when both are rounded.
    rcases hapart m n rfl rfl with ⟨hneg, hlarge⟩ | ⟨hneg, hlarge⟩
    · rw [Int.compare_eq_lt.mpr (Double.nearestRank_lt_of_neg hneg (by omega)),
        Int.compare_eq_lt.mpr (by omega)]
    · rw [Int.compare_eq_gt.mpr (Double.nearestRank_lt_of_neg hneg (by omega)),
        Int.compare_eq_gt.mpr (by omega)]

theorem order_double_left (d : Double) (y : Number) :
    (double d).order y = compare (double d).rank y.rank := rfl

theorem order_double_right (x : Number) (d : Double) :
    x.order (double d) = compare x.rank (double d).rank := by
  rcases order_routes x (double d) with ⟨m, n, -, hn, -⟩ | ⟨-, hranks⟩
  · exact nomatch hn
  · exact hranks

/-- Whatever the route, a number that is less has no greater rank. -/
theorem rank_le_of_order (h : x.order y ≠ .gt) : x.rank ≤ y.rank := by
  rcases order_routes x y with ⟨m, n, rfl, rfl, hexact⟩ | ⟨-, hranks⟩
  · rw [rank_integer, rank_integer]
    rw [hexact] at h
    exact Double.nearestRank_mono (Int.compare_ne_gt.mp h)
  · rw [hranks] at h
    exact Int.compare_ne_gt.mp h

/-! ## Laws -/

theorem order_self (x : Number) : x.order x = .eq := by
  rcases order_routes x x with ⟨m, n, hm, hn, hexact⟩ | ⟨-, hranks⟩
  · cases hm.symm.trans hn
    rw [hexact]
    exact Std.ReflCmp.compare_self
  · rw [hranks]
    exact Std.ReflCmp.compare_self

/-- The order of two numbers is the other way round from the other side. -/
theorem order_swap (x y : Number) : (x.order y).swap = y.order x := by
  cases x with
  | double d => rw [order_double_left, order_double_right, ← Std.OrientedOrd.eq_swap]
  | integer m =>
    cases y with
    | double d => rw [order_double_left, order_double_right, ← Std.OrientedOrd.eq_swap]
    | integer n => rw [order_integer, order_integer, ← Std.OrientedOrd.eq_swap]

theorem order_eq_comm (h : x.order y = .eq) : y.order x = .eq := by
  rw [← order_swap, h, Ordering.swap_eq]

theorem rank_eq_of_order (h : x.order y = .eq) : x.rank = y.rank := by
  apply Int.le_antisymm
  · exact rank_le_of_order (by rw [h]; exact nofun)
  · exact rank_le_of_order (by rw [order_eq_comm h]; exact nofun)

/-- Where ranks differ, no route decides otherwise. -/
theorem order_of_rank_lt (h : x.rank < y.rank) : x.order y = .lt := by
  have hback : y.order x = .gt := by
    by_contra hne
    exact absurd (rank_le_of_order hne) (Int.not_le.mpr h)
  rw [← order_swap, hback, Ordering.swap_gt]

/-- Numbers of one rank that are not equal are integers. -/
theorem exists_integers (hrank : x.rank = y.rank) (h : x.order y ≠ .eq) :
    ∃ m n, x = integer m ∧ y = integer n ∧ x.order y = compare m.val n.val := by
  rcases order_routes x y with hexact | ⟨-, hranks⟩
  · exact hexact
  · rw [hranks, hrank] at h
    exact absurd Std.ReflCmp.compare_self h

/-- **The order of numbers is transitive.** -/
theorem order_trans (hxy : x.order y = .lt) (hyz : y.order z = .lt) : x.order z = .lt := by
  have hle_xy : x.rank ≤ y.rank := rank_le_of_order (by rw [hxy]; exact nofun)
  have hle_yz : y.rank ≤ z.rank := rank_le_of_order (by rw [hyz]; exact nofun)
  rcases Int.lt_or_eq_of_le (Int.le_trans hle_xy hle_yz) with hlt | heq
  · exact order_of_rank_lt hlt
  · -- All three have one rank, so all three are integers.
    obtain ⟨m, n, rfl, rfl, hmn⟩ :=
      exists_integers (x := x) (y := y) (by omega) (by rw [hxy]; exact nofun)
    obtain ⟨n', k, hn, rfl, hnk⟩ := exists_integers (x := .integer n) (y := z) (by omega)
      (by rw [hyz]; exact nofun)
    cases hn
    rw [order_integer]
    exact Std.TransCmp.lt_trans (hmn.symm.trans hxy) (hnk.symm.trans hyz)

end Number

/-! ## Doubles that stand for one integer -/

/-- That among some numbers no double is equal to two integers. -/
def KeepsApart (S : Number → Prop) : Prop :=
  ∀ m n d, S (.integer m) → S (.integer n) → S (.double d) →
    (Number.integer m).order (.double d) = .eq → (Number.integer n).order (.double d) = .eq → m = n

namespace KeepsApart

open Number

variable {S : Number → Prop} {x y z : Number}

/-- An integer and a third number of its rank are alike, if a double of that rank is at hand. -/
theorem order_eq (hS : KeepsApart S) {m : Integer} {d : Double} (hm : S (.integer m))
    (hd : S (.double d)) (hz : S z) (hmd : (integer m).rank = (double d).rank)
    (hzd : z.rank = (double d).rank) : (integer m).order z = .eq := by
  have hequal : (integer m).order (.double d) = .eq := by
    rw [order_double_right, hmd]
    exact Std.ReflCmp.compare_self
  cases z with
  | double e =>
    rw [order_double_right, hmd, hzd]
    exact Std.ReflCmp.compare_self
  | integer n =>
    have hequal' : (integer n).order (.double d) = .eq := by
      rw [order_double_right, hzd]
      exact Std.ReflCmp.compare_self
    rw [hS m n d hm hz hd hequal hequal']
    exact order_self _

/-- **Numbers that are equal are alike beside a third**, if no double at hand stands for two
integers. -/
theorem order_congr (hS : KeepsApart S) (hx : S x) (hy : S y) (hz : S z) (hxy : x.order y = .eq) :
    x.order z = y.order z := by
  have hrank := rank_eq_of_order hxy
  rcases Int.lt_trichotomy x.rank z.rank with hlt | heq | hgt
  · rw [order_of_rank_lt hlt, order_of_rank_lt (hrank ▸ hlt)]
  · cases x with
    | integer m =>
      cases y with
      | integer n =>
        rw [order_integer] at hxy
        rw [Integer.eq_of_val (Std.LawfulEqCmp.eq_of_compare hxy)]
      | double d =>
        rw [hS.order_eq hx hy hz hrank (heq.symm.trans hrank), order_double_left, ← hrank, heq]
        exact Std.ReflCmp.compare_self.symm
    | double d =>
      have hleft : (double d).order z = .eq := by
        rw [order_double_left, heq]
        exact Std.ReflCmp.compare_self
      rw [hleft]
      cases y with
      | integer n => exact (hS.order_eq hy hx hz hrank.symm heq.symm).symm
      | double e =>
        rw [order_double_left, ← hrank, heq]
        exact Std.ReflCmp.compare_self.symm
  · rw [← order_swap z, ← order_swap z, order_of_rank_lt hgt, order_of_rank_lt (hrank ▸ hgt)]

theorem order_congr_right (hS : KeepsApart S) (hx : S x) (hy : S y) (hz : S z)
    (hyz : y.order z = .eq) : x.order y = x.order z := by
  rw [← order_swap y, ← order_swap z, hS.order_congr hy hz hx hyz]

/-- Integers alone are kept apart, and so are doubles alone. -/
theorem of_integers (h : ∀ d, ¬S (.double d)) : KeepsApart S :=
  fun _ _ d _ _ hd _ _ => absurd hd (h d)

theorem of_doubles (h : ∀ n, ¬S (.integer n)) : KeepsApart S :=
  fun m _ _ hm _ _ _ _ => absurd hm (h m)

/-- Up to `2 ^ 53` integers are kept apart, whatever the doubles. -/
theorem of_small (h : ∀ n, S (.integer n) → n.val.natAbs ≤ 2 ^ 53) : KeepsApart S := by
  intro m n d hm hn _ hmd hnd
  have hranks : Double.nearestRank m.val = Double.nearestRank n.val := by
    rw [← rank_integer, ← rank_integer, rank_eq_of_order hmd, rank_eq_of_order hnd]
  apply Integer.eq_of_val
  rcases Int.lt_trichotomy m.val n.val with hlt | heq | hgt
  · have hless := Double.nearestRank_strictMono hlt (h m hm) (h n hn)
    omega
  · exact heq
  · have hless := Double.nearestRank_strictMono hgt (h n hn) (h m hm)
    omega

end KeepsApart

end AlertRules.Json
