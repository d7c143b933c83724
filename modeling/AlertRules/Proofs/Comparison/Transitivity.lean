import AlertRules.Proofs.Comparison.Symmetry

/-!
# Transitivity, and where it ends

Whether equality and order of values are transitive depends on their numbers alone. If no double
among them is equal to two of the integers (`KeepsApart`), both are: fields and items that are equal
stay equal, and of two lists the first items that are not equal decide (`Value.LessItems`), which a
third list that is equal up to there does not change.

If there is such a double, it stands between two integers as equal to both, so that equality is not
transitive. Then order is not either: a list that begins with the greater integer is less than a
longer one that begins with the double, this is less than a still longer one that begins with the
smaller integer, and that one is less than the first. The cycle is there as soon as integers are
beyond `2 ^ 53` (`Value.order_cycle`).

> `Value.transitive_iff`: on the values whose numbers are among some given ones, equality is
> transitive if and only if these are kept apart, and so is order; and the order of values that are
> no lists always is.
-/

namespace AlertRules.Json

namespace Value

/-! ## Numbers in values -/

/-- That a number occurs in a value. -/
inductive Occurs (n : Number) : Value → Prop
  | number : Occurs n (.number n)
  | item {items : List Value} {v : Value} (hv : v ∈ items) (h : Occurs n v) :
    Occurs n (.array items)
  | field {fields : List (String × Value)} {f : String × Value} (hf : f ∈ fields)
    (h : Occurs n f.2) : Occurs n (.object fields)

/-- That all numbers in a value are among some. -/
def Within (S : Number → Prop) (v : Value) : Prop := ∀ n, Occurs n v → S n

variable {S : Number → Prop}

theorem within_null : Within S .null := by
  rintro n ⟨⟩

theorem within_number {x : Number} (h : S x) : Within S (.number x) := by
  rintro n ⟨⟩
  exact h

theorem within_array {xs : List Value} : Within S (.array xs) ↔ ∀ x ∈ xs, Within S x := by
  constructor
  · exact fun h x hx n hn => h n (.item hx hn)
  · rintro h n ⟨⟩
    next hn hx => exact h _ hx n hn

theorem Within.field {xs : List (String × Value)} (h : Within S (.object xs)) {f : String × Value}
    (hf : f ∈ xs) : Within S f.2 := fun n hn => h n (.field hf hn)

/-! ## Steps that compose -/

/-- That one value is equal to another. -/
def Same (a b : Value) : Prop := a.equal b = true

/-- That one value is less than another. -/
def Less (a b : Value) : Prop := a.order b = some .lt

/-- That among items of three lists a step of one kind and a step of another make a step of a
third. -/
def Compose (P Q R : Value → Value → Prop) (xs ys zs : List Value) : Prop :=
  ∀ x ∈ xs, ∀ y ∈ ys, ∀ z ∈ zs, P x y → Q y z → R x z

section Compose

variable {P Q R : Value → Value → Prop} {x y z : Value} {xs ys zs : List Value}

theorem Compose.head (h : Compose P Q R (x :: xs) (y :: ys) (z :: zs)) (hxy : P x y) (hyz : Q y z) :
    R x z :=
  h x (List.mem_cons_self ..) y (List.mem_cons_self ..) z (List.mem_cons_self ..) hxy hyz

theorem Compose.tail (h : Compose P Q R (x :: xs) (y :: ys) (z :: zs)) : Compose P Q R xs ys zs :=
  fun u hu v hv w hw => h u (List.mem_cons_of_mem _ hu) v (List.mem_cons_of_mem _ hv) w
    (List.mem_cons_of_mem _ hw)

end Compose

theorem equalItems_trans {xs ys zs : List Value} (h : Compose Same Same Same xs ys zs)
    (hxy : equalItems xs ys = true) (hyz : equalItems ys zs = true) : equalItems xs zs = true := by
  induction xs generalizing ys zs with
  | nil =>
    obtain rfl := nil_equalItems_iff.mp hxy
    exact hyz
  | cons x xs ih =>
    obtain ⟨y, ys, rfl, hx, hxs⟩ := cons_equalItems_iff.mp hxy
    obtain ⟨z, zs, rfl, hy, hys⟩ := cons_equalItems_iff.mp hyz
    exact equalItems_cons.mpr ⟨h.head hx hy, ih h.tail hxs hys⟩

/-! ## Lists in order -/

/-- That one list is less than another: it ends first, or its first item that is not equal is
less. -/
inductive LessItems : List Value → List Value → Prop
  | shorter {y : Value} {ys : List Value} : LessItems [] (y :: ys)
  | here {x y : Value} {xs ys : List Value} (h : Less x y) : LessItems (x :: xs) (y :: ys)
  | further {x y : Value} {xs ys : List Value} (hxy : Same x y) (h : LessItems xs ys) :
    LessItems (x :: xs) (y :: ys)

theorem orderItems_lt_iff {xs ys : List Value} : orderItems xs ys = some .lt ↔ LessItems xs ys := by
  constructor
  · intro h
    induction xs generalizing ys with
    | nil =>
      cases ys with
      | nil => simp [orderItems] at h
      | cons y ys => exact .shorter
    | cons x xs ih =>
      cases ys with
      | nil => simp [orderItems] at h
      | cons y ys =>
        by_cases hxy : x.equal y = true
        · rw [orderItems_of_equal hxy] at h
          exact .further hxy (ih h)
        · rw [orderItems_of_unequal hxy] at h
          exact .here h
  · intro h
    induction h with
    | shorter => rw [orderItems]
    | here h =>
      rw [orderItems_of_unequal (not_equal_of_order h (by decide))]
      exact h
    | further hxy _ ih => rw [orderItems_of_equal hxy, ih]

namespace LessItems

variable {xs ys zs : List Value}

theorem of_equal_left (hequal : Compose Same Same Same xs ys zs)
    (hless : Compose Same Less Less xs ys zs) (hxy : equalItems xs ys = true)
    (hyz : LessItems ys zs) : LessItems xs zs := by
  induction xs generalizing ys zs with
  | nil =>
    obtain rfl := nil_equalItems_iff.mp hxy
    exact hyz
  | cons x xs ih =>
    obtain ⟨y, ys, rfl, hx, hxs⟩ := cons_equalItems_iff.mp hxy
    cases hyz with
    | here hy => exact .here (hless.head hx hy)
    | further hy hys => exact .further (hequal.head hx hy) (ih hequal.tail hless.tail hxs hys)

theorem of_equal_right (hequal : Compose Same Same Same xs ys zs)
    (hless : Compose Less Same Less xs ys zs) (hxy : LessItems xs ys)
    (hyz : equalItems ys zs = true) : LessItems xs zs := by
  induction hxy generalizing zs with
  | shorter =>
    obtain ⟨z, zs, rfl, -, -⟩ := cons_equalItems_iff.mp hyz
    exact .shorter
  | here hx =>
    obtain ⟨z, zs, rfl, hy, -⟩ := cons_equalItems_iff.mp hyz
    exact .here (hless.head hx hy)
  | further hx _ ih =>
    obtain ⟨z, zs, rfl, hy, hys⟩ := cons_equalItems_iff.mp hyz
    exact .further (hequal.head hx hy) (ih hequal.tail hless.tail hys)

theorem trans (hequal : Compose Same Same Same xs ys zs) (hleft : Compose Same Less Less xs ys zs)
    (hright : Compose Less Same Less xs ys zs) (hless : Compose Less Less Less xs ys zs)
    (hxy : LessItems xs ys) (hyz : LessItems ys zs) : LessItems xs zs := by
  induction hxy generalizing zs with
  | shorter => cases hyz <;> exact .shorter
  | here hx =>
    cases hyz with
    | here hy => exact .here (hless.head hx hy)
    | further hy _ => exact .here (hright.head hx hy)
  | further hx _ ih =>
    cases hyz with
    | here hy => exact .here (hleft.head hx hy)
    | further hy hys =>
      exact .further (hequal.head hx hy) (ih hequal.tail hleft.tail hright.tail hless.tail hys)

end LessItems

/-! ## Values -/

section Laws

variable (hS : KeepsApart S)
include hS

/-- **Equality is transitive** where numbers are kept apart. -/
theorem equal_trans {a b c : Value} (ha : a.Within S) (hb : b.Within S) (hc : c.Within S)
    (hab : Same a b) (hbc : Same b c) : Same a c := by
  induction a using induct generalizing b c with
  | null =>
    obtain rfl := null_equal_iff.mp hab
    exact hbc
  | bool x =>
    obtain rfl := bool_equal_iff.mp hab
    exact hbc
  | string s =>
    obtain rfl := string_equal_iff.mp hab
    exact hbc
  | number x =>
    obtain ⟨y, rfl, hxy⟩ := number_equal_iff.mp hab
    obtain ⟨z, rfl, hyz⟩ := number_equal_iff.mp hbc
    have hxz := hS.order_congr (ha x .number) (hb y .number) (hc z .number) hxy
    exact number_equal_iff.mpr ⟨z, rfl, hxz.trans hyz⟩
  | array xs ih =>
    obtain ⟨ys, rfl, hxys⟩ := array_equal_iff.mp hab
    obtain ⟨zs, rfl, hyzs⟩ := array_equal_iff.mp hbc
    rw [within_array] at ha hb hc
    have hitems : Compose Same Same Same xs ys zs :=
      fun x hx y hy z hz => ih x hx (ha x hx) (hb y hy) (hc z hz)
    exact array_equal_iff.mpr ⟨zs, rfl, equalItems_trans hitems hxys hyzs⟩
  | object xs ih =>
    obtain ⟨ys, rfl, hxys, hfieldsx⟩ := object_equal_iff.mp hab
    obtain ⟨zs, rfl, hyzs, hfieldsy⟩ := object_equal_iff.mp hbc
    refine object_equal_iff.mpr ⟨zs, rfl, hxys.trans hyzs, fun f hf => ?_⟩
    -- What is found in the second object is a field of it, and so has its equal in the third.
    obtain ⟨v, hv, hfv⟩ := hfieldsx f hf
    have hmem := mem_of_field? hv
    obtain ⟨w, hw, hvw⟩ := hfieldsy (f.1, v) hmem
    exact ⟨w, hw, ih f hf (ha.field hf) (hb.field hmem) (hc.field (mem_of_field? hw)) hfv hvw⟩

/-- What is equal to a lesser value is less. -/
theorem less_of_same_of_less {a b c : Value} (ha : a.Within S) (hb : b.Within S) (hc : c.Within S)
    (hab : Same a b) (hbc : Less b c) : Less a c := by
  induction a using induct generalizing b c with
  | null =>
    obtain rfl := null_equal_iff.mp hab
    exact hbc
  | bool x =>
    obtain rfl := bool_equal_iff.mp hab
    exact hbc
  | string s =>
    obtain rfl := string_equal_iff.mp hab
    exact hbc
  | number x =>
    obtain ⟨y, rfl, hxy⟩ := number_equal_iff.mp hab
    obtain ⟨z, rfl, hyz⟩ := number_order_iff.mp hbc
    have hxz := hS.order_congr (ha x .number) (hb y .number) (hc z .number) hxy
    exact number_order_iff.mpr ⟨z, rfl, hxz.trans hyz⟩
  | array xs ih =>
    obtain ⟨ys, rfl, hxys⟩ := array_equal_iff.mp hab
    obtain ⟨zs, rfl, hyzs⟩ := array_order_iff.mp hbc
    rw [within_array] at ha hb hc
    have hequal : Compose Same Same Same xs ys zs :=
      fun x hx y hy z hz => equal_trans hS (ha x hx) (hb y hy) (hc z hz)
    have hless : Compose Same Less Less xs ys zs :=
      fun x hx y hy z hz => ih x hx (ha x hx) (hb y hy) (hc z hz)
    have hxzs := (orderItems_lt_iff.mp hyzs).of_equal_left hequal hless hxys
    exact array_order_iff.mpr ⟨zs, rfl, orderItems_lt_iff.mpr hxzs⟩
  | object xs =>
    obtain ⟨ys, rfl, -, -⟩ := object_equal_iff.mp hab
    simp [Less, object_order] at hbc

/-- What is less than one of two equal values is less than the other. -/
theorem less_of_less_of_same {a b c : Value} (ha : a.Within S) (hb : b.Within S) (hc : c.Within S)
    (hab : Less a b) (hbc : Same b c) : Less a c := by
  induction a using induct generalizing b c with
  | null => simp [Less, null_order] at hab
  | object xs => simp [Less, object_order] at hab
  | bool x =>
    obtain ⟨y, rfl, -⟩ := bool_order_iff.mp hab
    obtain rfl := bool_equal_iff.mp hbc
    exact hab
  | string s =>
    obtain ⟨t, rfl, -⟩ := string_order_iff.mp hab
    obtain rfl := string_equal_iff.mp hbc
    exact hab
  | number x =>
    obtain ⟨y, rfl, hxy⟩ := number_order_iff.mp hab
    obtain ⟨z, rfl, hyz⟩ := number_equal_iff.mp hbc
    have hxz := hS.order_congr_right (ha x .number) (hb y .number) (hc z .number) hyz
    exact number_order_iff.mpr ⟨z, rfl, hxz.symm.trans hxy⟩
  | array xs ih =>
    obtain ⟨ys, rfl, hxys⟩ := array_order_iff.mp hab
    obtain ⟨zs, rfl, hyzs⟩ := array_equal_iff.mp hbc
    rw [within_array] at ha hb hc
    have hequal : Compose Same Same Same xs ys zs :=
      fun x hx y hy z hz => equal_trans hS (ha x hx) (hb y hy) (hc z hz)
    have hless : Compose Less Same Less xs ys zs :=
      fun x hx y hy z hz => ih x hx (ha x hx) (hb y hy) (hc z hz)
    have hxzs := (orderItems_lt_iff.mp hxys).of_equal_right hequal hless hyzs
    exact array_order_iff.mpr ⟨zs, rfl, orderItems_lt_iff.mpr hxzs⟩

end Laws

/-- The order of values that are no lists is transitive. -/
theorem less_trans_of_flat {a b c : Value} (ha : ∀ items, a ≠ .array items) (hab : Less a b)
    (hbc : Less b c) : Less a c := by
  cases a with
  | null => simp [Less, null_order] at hab
  | object xs => simp [Less, object_order] at hab
  | array xs => exact absurd rfl (ha xs)
  | bool x =>
    obtain ⟨y, rfl, hxy⟩ := bool_order_iff.mp hab
    obtain ⟨z, rfl, hyz⟩ := bool_order_iff.mp hbc
    exact bool_order_iff.mpr ⟨z, rfl, Std.TransCmp.lt_trans hxy hyz⟩
  | string s =>
    obtain ⟨t, rfl, hst⟩ := string_order_iff.mp hab
    obtain ⟨u, rfl, htu⟩ := string_order_iff.mp hbc
    exact string_order_iff.mpr ⟨u, rfl, Std.TransCmp.lt_trans hst htu⟩
  | number x =>
    obtain ⟨y, rfl, hxy⟩ := number_order_iff.mp hab
    obtain ⟨z, rfl, hyz⟩ := number_order_iff.mp hbc
    exact number_order_iff.mpr ⟨z, rfl, Number.order_trans hxy hyz⟩

/-- **Order is transitive** where numbers are kept apart. -/
theorem less_trans (hS : KeepsApart S) {a b c : Value} (ha : a.Within S) (hb : b.Within S)
    (hc : c.Within S) (hab : Less a b) (hbc : Less b c) : Less a c := by
  induction a using induct generalizing b c with
  | array xs ih =>
    obtain ⟨ys, rfl, hxys⟩ := array_order_iff.mp hab
    obtain ⟨zs, rfl, hyzs⟩ := array_order_iff.mp hbc
    rw [within_array] at ha hb hc
    have hequal : Compose Same Same Same xs ys zs :=
      fun x hx y hy z hz => equal_trans hS (ha x hx) (hb y hy) (hc z hz)
    have hleft : Compose Same Less Less xs ys zs :=
      fun x hx y hy z hz => less_of_same_of_less hS (ha x hx) (hb y hy) (hc z hz)
    have hright : Compose Less Same Less xs ys zs :=
      fun x hx y hy z hz => less_of_less_of_same hS (ha x hx) (hb y hy) (hc z hz)
    have hless : Compose Less Less Less xs ys zs :=
      fun x hx y hy z hz => ih x hx (ha x hx) (hb y hy) (hc z hz)
    have hxzs :=
      (orderItems_lt_iff.mp hxys).trans hequal hleft hright hless (orderItems_lt_iff.mp hyzs)
    exact array_order_iff.mpr ⟨zs, rfl, orderItems_lt_iff.mpr hxzs⟩
  | _ => exact less_trans_of_flat (by simp) hab hbc

/-! ## Numbers that are not kept apart -/

/-- A double that is equal to two integers makes lists of three lengths a cycle, or the greater
integer would be no greater. -/
theorem not_lt_of_less_trans
    (h : ∀ a b c : Value, a.Within S → b.Within S → c.Within S → Less a b → Less b c → Less a c)
    {m n : Integer} {d : Double} (hm : S (.integer m)) (hn : S (.integer n)) (hd : S (.double d))
    (hmd : (Number.integer m).order (.double d) = .eq)
    (hnd : (Number.integer n).order (.double d) = .eq) : ¬n.val < m.val := by
  intro hlt
  have hless :
      Less (.array [.number (.integer m)]) (.array [.number (.integer n), .null, .null]) := by
    refine h _ (.array [.number (.double d), .null]) _ ?_ ?_ ?_ ?_ ?_
    · simp [within_array, within_number hm]
    · simp [within_array, within_number hd, within_null]
    · simp [within_array, within_number hn, within_null]
    · refine orderItems_lt_iff.mpr (.further ?_ .shorter)
      simp [Same, equal, hmd]
    · refine orderItems_lt_iff.mpr (.further ?_ (.further ?_ .shorter))
      · simp [Same, equal, Number.order_eq_comm hnd]
      · simp [Same, equal]
  cases orderItems_lt_iff.mp hless with
  | here hmn =>
    simp only [Less, order, Number.order_integer, Option.some.injEq, Int.compare_eq_lt] at hmn
    omega
  | further hmn =>
    simp only [Same, equal, Number.order_integer, beq_iff_eq, Int.compare_eq_eq] at hmn
    omega

theorem keepsApart_of_equal_trans
    (h : ∀ a b c : Value, a.Within S → b.Within S → c.Within S → Same a b → Same b c → Same a c) :
    KeepsApart S := by
  intro m n d hm hn hd hmd hnd
  have hmn : Same (.number (.integer m)) (.number (.integer n)) := by
    refine h _ (.number (.double d)) _ (within_number hm) (within_number hd)
      (within_number hn) ?_ ?_
    · simp [Same, equal, hmd]
    · simp [Same, equal, Number.order_eq_comm hnd]
  simp only [Same, equal, Number.order_integer, beq_iff_eq, Int.compare_eq_eq] at hmn
  exact Integer.eq_of_val hmn

theorem keepsApart_of_less_trans
    (h : ∀ a b c : Value, a.Within S → b.Within S → c.Within S → Less a b → Less b c → Less a c) :
    KeepsApart S := by
  intro m n d hm hn hd hmd hnd
  apply Integer.eq_of_val
  have hle : ¬n.val < m.val := not_lt_of_less_trans h hm hn hd hmd hnd
  have hge : ¬m.val < n.val := not_lt_of_less_trans h hn hm hd hnd hmd
  omega

/-- **Equality and order are transitive exactly where no double is equal to two integers.** On the
values whose numbers are among some given ones this is so of equality, and of order as well; order
can fail to be transitive from lists only. -/
theorem transitive_iff (S : Number → Prop) :
    ((∀ a b c : Value, a.Within S → b.Within S → c.Within S →
      a.equal b = true → b.equal c = true → a.equal c = true) ↔ KeepsApart S) ∧
    ((∀ a b c : Value, a.Within S → b.Within S → c.Within S →
      a.order b = some .lt → b.order c = some .lt → a.order c = some .lt) ↔ KeepsApart S) ∧
    (∀ a b c : Value, (∀ items, a ≠ .array items) →
      a.order b = some .lt → b.order c = some .lt → a.order c = some .lt) := by
  refine ⟨⟨keepsApart_of_equal_trans, ?_⟩, ⟨keepsApart_of_less_trans, ?_⟩, ?_⟩
  · exact fun hS a b c ha hb hc hab hbc => equal_trans hS ha hb hc hab hbc
  · exact fun hS a b c ha hb hc hab hbc => less_trans hS ha hb hc hab hbc
  · exact fun a b c ha hab hbc => less_trans_of_flat ha hab hbc

/-- The double `2 ^ 53` is equal to the integer of that size and to the one above, which are not
equal. Lists that begin with the three are less than one another in a cycle. -/
theorem order_cycle :
    let small : Integer := ⟨0x20000000000000, by decide⟩
    let large : Integer := ⟨0x20000000000001, by decide⟩
    let between : Double := ⟨false, 0x4340000000000000, by decide⟩
    let a := Value.array [.number (.integer large)]
    let b := Value.array [.number (.double between), .null]
    let c := Value.array [.number (.integer small), .null, .null]
    (Value.number (.integer large)).equal (.number (.double between)) = true ∧
      (Value.number (.double between)).equal (.number (.integer small)) = true ∧
      (Value.number (.integer large)).equal (.number (.integer small)) = false ∧
      a.order b = some .lt ∧ b.order c = some .lt ∧ a.order c = some .gt ∧
      c.order a = some .lt := by
  decide +kernel

end Value

end AlertRules.Json
