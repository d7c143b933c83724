import AlertRules.Proofs.Comparison.Transitivity

/-!
# Integers, and lists of them

Whatever kinds of sixty-four bits two integers are of, they are compared as they are
(`Number.order_integer`). Among integers, then, what is equal is the same, and that is all that
lists need: skipping items that are equal is skipping items that are the same, and the first items
that differ decide. So lists of integers, nested in any way, are in lexicographic order
(`Value.Precedes`), as far as they are in any. They are in none just if at the first place where
they differ one has an integer and the other a list (`Value.Clash`).

This is so of integers only. A double of the size of an integer is a number of another kind, and
beside it integers are rounded (`Number.order_double_right`).

> `Value.integers_compare_exactly`: integers are in the order of their sizes, and lists of them in
> lexicographic order, in which only a list itself has the place of that list.
-/

namespace AlertRules.Json

/-- The doubles nearest to an integer below zero and to one that is not are in the order of the
integers. -/
theorem Number.cmp_asDouble_of_neg {m n : Integer} (hm : m.val < 0) (hn : 0 ≤ n.val) :
    (integer m).asDouble.cmp (integer n).asDouble = .lt := by
  show compare (integer m).rank (integer n).rank = .lt
  rw [rank_integer, rank_integer]
  exact Int.compare_eq_lt.mpr (Double.nearestRank_lt_of_neg hm hn)

namespace Value

/-! ## Lists whose leaves are integers -/

/-- What is an integer, or a list of such values. -/
inductive Integral : Value → Prop
  | integer (n : Integer) : Integral (.number (.integer n))
  | array {items : List Value} (h : ∀ v ∈ items, Integral v) : Integral (.array items)

/-- Lexicographic order: integers by size, and lists by their first items that differ, or else by
which ends first. -/
inductive Precedes : Value → Value → Prop
  | integer {m n : Integer} (h : m.val < n.val) :
    Precedes (.number (.integer m)) (.number (.integer n))
  | array {xs ys : List Value} (h : List.Lex Precedes xs ys) : Precedes (.array xs) (.array ys)

mutual

/-- That an integer meets a list, at the first place where two values differ. -/
inductive Clash : Value → Value → Prop
  | integer {n : Integer} {ys : List Value} : Clash (.number (.integer n)) (.array ys)
  | list {xs : List Value} {n : Integer} : Clash (.array xs) (.number (.integer n))
  | items {xs ys : List Value} (h : ClashItems xs ys) : Clash (.array xs) (.array ys)

/-- That the first items in which two lists differ clash. -/
inductive ClashItems : List Value → List Value → Prop
  | here {x y : Value} {xs ys : List Value} (h : Clash x y) : ClashItems (x :: xs) (y :: ys)
  | further {x : Value} {xs ys : List Value} (h : ClashItems xs ys) : ClashItems (x :: xs) (x :: ys)

end

variable {a b : Value} {xs ys : List Value}

theorem Integral.ordered (h : a.Integral) : a.Ordered := by
  induction h with
  | integer n => trivial
  | array _ ih => exact orderedItems_iff.mpr ih

theorem precedes_integer_iff {m n : Integer} :
    Precedes (.number (.integer m)) (.number (.integer n)) ↔ m.val < n.val := by
  refine ⟨fun h => ?_, .integer⟩
  cases h with
  | integer h => exact h

theorem precedes_array_iff : Precedes (.array xs) (.array ys) ↔ List.Lex Precedes xs ys := by
  refine ⟨fun h => ?_, .array⟩
  cases h with
  | array h => exact h

theorem clash_array_iff : Clash (.array xs) (.array ys) ↔ ClashItems xs ys := by
  refine ⟨fun h => ?_, .items⟩
  cases h with
  | items h => exact h

/-! ## Equal and the same -/

theorem equalItems_iff_eq (h : Across (fun x y => x.equal y = true ↔ x = y) xs ys) :
    equalItems xs ys = true ↔ xs = ys := by
  induction xs generalizing ys with
  | nil => rw [nil_equalItems_iff, eq_comm]
  | cons x xs ih =>
    cases ys with
    | nil => simp [equalItems]
    | cons y ys => rw [equalItems_cons, h.head, ih h.tail, List.cons.injEq]

/-- **Integers, and lists of them, are equal only if they are the same.** -/
theorem Integral.equal_iff (ha : a.Integral) (hb : b.Integral) : a.equal b = true ↔ a = b := by
  induction ha generalizing b with
  | integer m =>
    cases hb with
    | integer n =>
      rw [equal, Number.order_integer, beq_iff_eq, Int.compare_eq_eq, number.injEq,
        Number.integer.injEq]
      exact ⟨Integer.eq_of_val, congrArg Integer.val⟩
    | array _ => simp [equal]
  | array _ ih =>
    cases hb with
    | integer n => simp [equal]
    | array hys =>
      rw [equal, array.injEq]
      exact equalItems_iff_eq fun x hx y hy => ih x hx (hys y hy)

theorem Integral.order_eq_iff (ha : a.Integral) (hb : b.Integral) :
    a.order b = some .eq ↔ a = b := by
  have horderable : a.isOrderable = true := by cases ha <;> rfl
  rw [Value.order_eq_iff, ha.equal_iff hb]
  exact and_iff_left horderable

/-! ## Less and before -/

theorem lessItems_iff (hxs : ∀ x ∈ xs, x.Integral) (hys : ∀ y ∈ ys, y.Integral)
    (h : Across (fun x y => Less x y ↔ Precedes x y) xs ys) :
    LessItems xs ys ↔ List.Lex Precedes xs ys := by
  induction xs generalizing ys with
  | nil =>
    cases ys with
    | nil => exact ⟨nofun, nofun⟩
    | cons y ys => exact ⟨fun _ => .nil, fun _ => .shorter⟩
  | cons x xs ih =>
    cases ys with
    | nil => exact ⟨nofun, nofun⟩
    | cons y ys =>
      obtain ⟨hx, hxs'⟩ := List.forall_mem_cons.mp hxs
      obtain ⟨hy, hys'⟩ := List.forall_mem_cons.mp hys
      constructor
      · intro hlists
        cases hlists with
        | here hxy => exact .rel (h.head.mp hxy)
        | further hxy hrest =>
          obtain rfl := (hx.equal_iff hy).mp hxy
          exact .cons ((ih hxs' hys' h.tail).mp hrest)
      · intro hlists
        cases hlists with
        | rel hxy => exact .here (h.head.mpr hxy)
        | cons hrest => exact .further ((hx.equal_iff hx).mpr rfl) ((ih hxs' hys' h.tail).mpr hrest)

/-- **What is less comes before**, in lexicographic order. -/
theorem Integral.less_iff (ha : a.Integral) (hb : b.Integral) : Less a b ↔ Precedes a b := by
  induction ha generalizing b with
  | integer m =>
    cases hb with
    | integer n =>
      rw [precedes_integer_iff, Less, order, Number.order_integer, Option.some.injEq,
        Int.compare_eq_lt]
    | array _ => exact iff_of_false (by simp [Less, order]) (by rintro ⟨⟩)
  | array hxs ih =>
    cases hb with
    | integer n => exact iff_of_false (by simp [Less, order]) (by rintro ⟨⟩)
    | array hys =>
      have hitems := lessItems_iff hxs hys fun x hx y hy => ih x hx (hys y hy)
      rw [precedes_array_iff, Less, order_array, orderItems_lt_iff, hitems]

/-! ## No order -/

theorem orderItems_eq_none_iff (hxs : ∀ x ∈ xs, x.Integral) (hys : ∀ y ∈ ys, y.Integral)
    (h : Across (fun x y => x.order y = none ↔ Clash x y) xs ys) :
    orderItems xs ys = none ↔ ClashItems xs ys := by
  induction xs generalizing ys with
  | nil => cases ys <;> exact ⟨nofun, nofun⟩
  | cons x xs ih =>
    cases ys with
    | nil => exact ⟨nofun, nofun⟩
    | cons y ys =>
      obtain ⟨hx, hxs'⟩ := List.forall_mem_cons.mp hxs
      obtain ⟨hy, hys'⟩ := List.forall_mem_cons.mp hys
      by_cases hxy : x = y
      · subst hxy
        have hself : x.order x = some .eq := (hx.order_eq_iff hx).mpr rfl
        rw [orderItems_of_equal ((hx.equal_iff hx).mpr rfl), ih hxs' hys' h.tail]
        refine ⟨.further, fun hlists => ?_⟩
        cases hlists with
        | here hclash => exact nomatch hself.symm.trans (h.head.mpr hclash)
        | further hrest => exact hrest
      · rw [orderItems_of_unequal (mt (hx.equal_iff hy).mp hxy), h.head]
        refine ⟨.here, fun hlists => ?_⟩
        cases hlists with
        | here hclash => exact hclash
        | further _ => exact absurd rfl hxy

/-- **Integers, and lists of them, have no order just if an integer meets a list** where they first
differ. -/
theorem Integral.order_eq_none_iff (ha : a.Integral) (hb : b.Integral) :
    a.order b = none ↔ Clash a b := by
  induction ha generalizing b with
  | integer m =>
    cases hb with
    | integer n => exact ⟨nofun, nofun⟩
    | array _ => exact ⟨fun _ => .integer, fun _ => rfl⟩
  | array hxs ih =>
    cases hb with
    | integer n => exact ⟨fun _ => .list, fun _ => rfl⟩
    | array hys =>
      have hitems := orderItems_eq_none_iff hxs hys fun x hx y hy => ih x hx (hys y hy)
      rw [clash_array_iff, order_array, hitems]

/-! ## The order of integers -/

/-- **Integers compare exactly.** Two integers are in the order of their sizes. That is so of one
below zero and one beyond the signed integers too, which are compared as doubles. Two lists whose
leaves are integers, of any lengths and nested in any way, are in lexicographic order if they are in
any: the one is less just if it comes before the other, greater just if it comes behind, and ordered
the same just if it is the other. They are in no order just if at the first place where they differ
an integer meets a list. -/
theorem integers_compare_exactly :
    (∀ m n : Integer, (Number.integer m).order (.integer n) = compare m.val n.val) ∧
    (∀ m n : Integer, m.val < 0 → 0x7fffffffffffffff < n.val →
      (Number.integer m).asDouble.cmp (Number.integer n).asDouble = .lt ∧
      (Number.integer m).order (.integer n) = .lt ∧ (Number.integer n).order (.integer m) = .gt) ∧
    ∀ xs ys : List Value, Integral (.array xs) → Integral (.array ys) →
      ((Value.array xs).order (.array ys) = some .lt ↔ List.Lex Precedes xs ys) ∧
      ((Value.array xs).order (.array ys) = some .gt ↔ List.Lex Precedes ys xs) ∧
      ((Value.array xs).order (.array ys) = some .eq ↔ xs = ys) ∧
      ((Value.array xs).order (.array ys) = none ↔ ClashItems xs ys) := by
  have hlex {xs ys : List Value} (hxs : Integral (.array xs)) (hys : Integral (.array ys)) :
      (Value.array xs).order (.array ys) = some .lt ↔ List.Lex Precedes xs ys :=
    (hxs.less_iff hys).trans precedes_array_iff
  refine ⟨Number.order_integer, fun m n hm hn => ⟨?_, ?_, ?_⟩,
    fun xs ys hxs hys => ⟨hlex hxs hys, ?_, ?_, ?_⟩⟩
  · exact Number.cmp_asDouble_of_neg hm (by omega)
  · rw [Number.order_integer]
    exact Int.compare_eq_lt.mpr (by omega)
  · rw [Number.order_integer]
    exact Int.compare_eq_gt.mpr (by omega)
  · -- Greater is less from the other side.
    rw [← hlex hys hxs, order_swap hys.ordered hxs.ordered, Option.map_eq_some_iff]
    simp [Ordering.swap_eq_gt]
  · rw [hxs.order_eq_iff hys, array.injEq]
  · exact (hxs.order_eq_none_iff hys).trans clash_array_iff

/-- The least integer and the greatest, which share no kind, decide between two lists of lists;
beside a list the least has no order. -/
theorem integers_compare_exactly_extremes :
    let least : Integer := ⟨-0x8000000000000000, by decide⟩
    let greatest : Integer := ⟨0xffffffffffffffff, by decide⟩
    let small := Value.number (.integer least)
    let large := Value.number (.integer greatest)
    least.val < 0 ∧ 0x7fffffffffffffff < greatest.val ∧
    Integral (.array [small, .array [small]]) ∧ Integral (.array [small, .array [large]]) ∧
    Integral (.array [small, small]) ∧
    (Number.integer least).asDouble.cmp (Number.integer greatest).asDouble = .lt ∧
    (Value.array [small, .array [small]]).order (.array [small, .array [large]]) = some .lt ∧
    (Value.array [small, .array [large]]).order (.array [small, .array [small]]) = some .gt ∧
    (Value.array [small, .array [large]]).order (.array [small, small]) = none := by
  intro least greatest small large
  have hsmall : small.Integral := .integer least
  have hlarge : large.Integral := .integer greatest
  have hfirst : Integral (.array [small, .array [small]]) :=
    .array (by simp [hsmall, Integral.array])
  have hsecond : Integral (.array [small, .array [large]]) :=
    .array (by simp [hsmall, hlarge, Integral.array])
  have hflat : Integral (.array [small, small]) := .array (by simp [hsmall])
  have hbefore : List.Lex Precedes [small, .array [small]] [small, .array [large]] :=
    .cons (.rel (.array (.rel (.integer (by decide)))))
  obtain ⟨-, hdoubles, hlists⟩ := integers_compare_exactly
  refine ⟨by decide, by decide, hfirst, hsecond, hflat, ?_, ?_, ?_, ?_⟩
  · exact (hdoubles least greatest (by decide) (by decide)).1
  · exact (hlists _ _ hfirst hsecond).1.mpr hbefore
  · exact (hlists _ _ hsecond hfirst).2.1.mpr hbefore
  · exact (hlists _ _ hsecond hflat).2.2.2.mpr (.further (.here .list))

end Value

end AlertRules.Json
