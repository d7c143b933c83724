import Mathlib.Data.List.Perm.Subperm
import AlertRules.Proofs.Comparison.Number
import AlertRules.Proofs.Json.RoundTrip

/-!
# Operators agree

Equality of values is reflexive and symmetric, and the order of two values is the other way round
from the other side. Lists are compared item by item. Of two objects only the fields of one are
looked up in the other, but both have the same number of names, each once, so that no name of the
other is left out (`Value.names_subset`). That takes values whose objects have their fields in
order, as all have that are read or built (`Value.Ordered`).

Equality and order meet in one place: values of a kind that has an order are ordered the same
exactly if they are equal (`Value.order_eq_iff`), since the first items of two lists that are not
equal are not ordered the same.

> `Operator.operators_agree`: so each operator is the other way round what its counterpart is, and
> what is greater or equal is greater or is equal, and never more than one of less, equal and
> greater.
-/

namespace AlertRules

namespace Json.Value

/-! ## Values and what is in them -/

/-- What holds of a list if it holds of all its items, of an object if it holds of all its fields,
and of every other value, holds of all values. -/
@[elab_as_elim]
theorem induct {P : Value → Prop} (null : P .null) (bool : ∀ b, P (.bool b))
    (number : ∀ n, P (.number n)) (string : ∀ s, P (.string s))
    (array : ∀ items, (∀ v ∈ items, P v) → P (.array items))
    (object : ∀ fields, (∀ f ∈ fields, P f.2) → P (.object fields)) (v : Value) : P v :=
  @Value.rec P (fun items => ∀ v ∈ items, P v) (fun fields => ∀ f ∈ fields, P f.2) (fun f => P f.2)
    null bool number string array object
    (List.forall_mem_nil _) (fun _ _ hv hrest => List.forall_mem_cons.mpr ⟨hv, hrest⟩)
    (List.forall_mem_nil _) (fun _ _ hf hrest => List.forall_mem_cons.mpr ⟨hf, hrest⟩)
    (fun _ _ hv => hv) v

theorem orderedItems_iff {items : List Value} : OrderedItems items ↔ ∀ v ∈ items, v.Ordered := by
  induction items with
  | nil => simp [OrderedItems]
  | cons v rest ih => rw [OrderedItems, ih, List.forall_mem_cons]

theorem ordered_of_mem_fields {fields : List (String × Value)} (h : OrderedFields fields) :
    ∀ f ∈ fields, f.2.Ordered := by
  induction fields with
  | nil => exact List.forall_mem_nil _
  | cons g rest ih => exact List.forall_mem_cons.mpr ⟨h.2.1, ih h.2.2⟩

/-- Fields in order have each name once. -/
theorem nodup_names {fields : List (String × Value)} (h : OrderedFields fields) :
    (fields.map Prod.fst).Nodup := by
  induction fields with
  | nil => exact List.nodup_nil
  | cons g rest ih =>
    refine List.nodup_cons.mpr ⟨fun hmem => ?_, ih h.2.2⟩
    obtain ⟨f, hf, hname⟩ := List.mem_map.mp hmem
    exact String.lt_irrefl g.1 (hname ▸ h.1 f hf)

theorem mem_of_field? {name : String} {v : Value} : ∀ {fields : List (String × Value)},
    field? name fields = some v → (name, v) ∈ fields
  | (k, w) :: rest, h => by
    rw [field?] at h
    split at h
    next hk =>
      cases hk
      cases h
      exact List.mem_cons_self ..
    next => exact List.mem_cons_of_mem _ (mem_of_field? h)

/-- Every field of an object is found under its name. -/
theorem field?_of_mem {fields : List (String × Value)} (h : OrderedFields fields)
    {f : String × Value} (hf : f ∈ fields) : field? f.1 fields = some f.2 := by
  induction fields with
  | nil => exact absurd hf List.not_mem_nil
  | cons g rest ih =>
    rw [field?]
    rcases List.mem_cons.mp hf with rfl | hf
    · exact if_pos rfl
    · rw [if_neg, ih h.2.2 hf]
      rintro hname
      exact String.lt_irrefl g.1 (by simpa [hname] using h.1 f hf)

/-- That something holds between all items of one list and all of another. -/
def Across (R : Value → Value → Prop) (xs ys : List Value) : Prop := ∀ x ∈ xs, ∀ y ∈ ys, R x y

namespace Across

variable {R : Value → Value → Prop} {x y : Value} {xs ys : List Value}

theorem head (h : Across R (x :: xs) (y :: ys)) : R x y :=
  h x (List.mem_cons_self ..) y (List.mem_cons_self ..)

theorem tail (h : Across R (x :: xs) (y :: ys)) : Across R xs ys :=
  fun v hv w hw => h v (List.mem_cons_of_mem _ hv) w (List.mem_cons_of_mem _ hw)

end Across

/-! ## Equality

What is equal to a value is a value of the same kind. -/

section

variable {v : Value} {l : List Value}

attribute [local simp] equal equalItems equalFields

theorem null_equal_iff : Value.null.equal v = true ↔ v = .null := by
  cases v <;> simp

theorem bool_equal_iff {b : Bool} : (Value.bool b).equal v = true ↔ v = .bool b := by
  cases v with
  | bool c =>
    rw [equal, beq_iff_eq, bool.injEq]
    exact eq_comm
  | _ => simp

theorem string_equal_iff {s : String} : (Value.string s).equal v = true ↔ v = .string s := by
  cases v with
  | string t =>
    rw [equal, beq_iff_eq, string.injEq]
    exact eq_comm
  | _ => simp

theorem number_equal_iff {x : Number} :
    (Value.number x).equal v = true ↔ ∃ y, v = .number y ∧ x.order y = .eq := by
  cases v <;> simp

theorem array_equal_iff {xs : List Value} :
    (Value.array xs).equal v = true ↔ ∃ ys, v = .array ys ∧ equalItems xs ys = true := by
  cases v <;> simp

theorem equalFields_iff {xs ys : List (String × Value)} :
    equalFields xs ys = true ↔ ∀ f ∈ xs, ∃ w, field? f.1 ys = some w ∧ f.2.equal w = true := by
  induction xs with
  | nil => simp
  | cons f rest ih =>
    rw [equalFields, Bool.and_eq_true, ih, List.forall_mem_cons]
    cases field? f.1 ys <;> simp

theorem object_equal_iff {xs : List (String × Value)} :
    (Value.object xs).equal v = true ↔ ∃ ys, v = .object ys ∧ xs.length = ys.length ∧
      ∀ f ∈ xs, ∃ w, field? f.1 ys = some w ∧ f.2.equal w = true := by
  cases v <;> simp [equalFields_iff]

theorem nil_equalItems_iff : equalItems [] l = true ↔ l = [] := by
  cases l <;> simp

theorem cons_equalItems_iff {x : Value} {xs : List Value} : equalItems (x :: xs) l = true ↔
    ∃ y ys, l = y :: ys ∧ x.equal y = true ∧ equalItems xs ys = true := by
  cases l <;> simp

end

theorem equalItems_cons {x y : Value} {xs ys : List Value} :
    equalItems (x :: xs) (y :: ys) = true ↔ x.equal y = true ∧ equalItems xs ys = true := by
  rw [equalItems, Bool.and_eq_true]

theorem equalItems_self {xs : List Value} (h : ∀ x ∈ xs, x.equal x = true) :
    equalItems xs xs = true := by
  induction xs with
  | nil => rw [equalItems]
  | cons x xs ih =>
    rw [List.forall_mem_cons] at h
    exact equalItems_cons.mpr ⟨h.1, ih h.2⟩

/-- Every value is equal to itself. -/
theorem equal_self {v : Value} (h : v.Ordered) : v.equal v = true := by
  induction v using induct with
  | null => exact null_equal_iff.mpr rfl
  | bool b => exact bool_equal_iff.mpr rfl
  | number n => exact number_equal_iff.mpr ⟨n, rfl, n.order_self⟩
  | string s => exact string_equal_iff.mpr rfl
  | array items ih =>
    refine array_equal_iff.mpr ⟨items, rfl, equalItems_self fun v hv => ?_⟩
    exact ih v hv (orderedItems_iff.mp h v hv)
  | object fields ih =>
    refine object_equal_iff.mpr ⟨fields, rfl, rfl, fun f hf => ⟨f.2, field?_of_mem h hf, ?_⟩⟩
    exact ih f hf (ordered_of_mem_fields h f hf)

/-- **No name is left out**: names that are found among as many others are all of these. -/
theorem names_subset {xs ys : List (String × Value)} (hxs : OrderedFields xs)
    (hlength : xs.length = ys.length)
    (h : ∀ f ∈ xs, ∃ w, field? f.1 ys = some w) : ys.map Prod.fst ⊆ xs.map Prod.fst := by
  have hsubset : xs.map Prod.fst ⊆ ys.map Prod.fst := by
    intro name hname
    obtain ⟨f, hf, rfl⟩ := List.mem_map.mp hname
    obtain ⟨w, hw⟩ := h f hf
    exact List.mem_map.mpr ⟨(f.1, w), mem_of_field? hw, rfl⟩
  have hperm := (List.subperm_of_subset (nodup_names hxs) hsubset).perm_of_length_le
    (by rw [List.length_map, List.length_map, hlength])
  exact hperm.symm.subset

theorem equalItems_symm {xs ys : List Value}
    (h : Across (fun x y => x.equal y = true → y.equal x = true) xs ys)
    (hequal : equalItems xs ys = true) : equalItems ys xs = true := by
  induction xs generalizing ys with
  | nil =>
    obtain rfl := nil_equalItems_iff.mp hequal
    exact hequal
  | cons x xs ih =>
    obtain ⟨y, ys, rfl, hxy, hrest⟩ := cons_equalItems_iff.mp hequal
    exact equalItems_cons.mpr ⟨h.head hxy, ih h.tail hrest⟩

/-- What is equal to a value has that value equal to it. -/
theorem equal_symm {a b : Value} (ha : a.Ordered) (hb : b.Ordered) (h : a.equal b = true) :
    b.equal a = true := by
  induction a using induct generalizing b with
  | null =>
    obtain rfl := null_equal_iff.mp h
    exact h
  | bool x =>
    obtain rfl := bool_equal_iff.mp h
    exact h
  | string s =>
    obtain rfl := string_equal_iff.mp h
    exact h
  | number x =>
    obtain ⟨y, rfl, hxy⟩ := number_equal_iff.mp h
    exact number_equal_iff.mpr ⟨x, rfl, Number.order_eq_comm hxy⟩
  | array xs ih =>
    obtain ⟨ys, rfl, hitems⟩ := array_equal_iff.mp h
    refine array_equal_iff.mpr ⟨xs, rfl, equalItems_symm (fun x hx y hy hxy => ?_) hitems⟩
    exact ih x hx (orderedItems_iff.mp ha x hx) (orderedItems_iff.mp hb y hy) hxy
  | object xs ih =>
    obtain ⟨ys, rfl, hlength, hfields⟩ := object_equal_iff.mp h
    refine object_equal_iff.mpr ⟨xs, rfl, hlength.symm, fun g hg => ?_⟩
    have hnames := names_subset ha hlength fun f hf => (hfields f hf).imp fun _ hw => hw.1
    obtain ⟨f, hf, hname⟩ := List.mem_map.mp (hnames (List.mem_map_of_mem hg))
    obtain ⟨w, hw, hequal⟩ := hfields f hf
    -- Under that name the second object has the field itself.
    have hfound := field?_of_mem hb hg
    rw [← hname, hw] at hfound
    cases hfound
    refine ⟨f.2, hname ▸ field?_of_mem ha hf, ?_⟩
    exact ih f hf (ordered_of_mem_fields ha f hf) (ordered_of_mem_fields hb g hg) hequal

theorem equal_comm {a b : Value} (ha : a.Ordered) (hb : b.Ordered) : b.equal a = a.equal b :=
  Bool.eq_iff_iff.mpr ⟨equal_symm hb ha, equal_symm ha hb⟩

/-! ## Order

Values that have an order are of one kind, and that kind is one of four. -/

/-- Whether values of this kind have an order. -/
def isOrderable : Value → Bool
  | .number _ | .string _ | .bool _ | .array _ => true
  | .null | .object _ => false

section

variable {v : Value} {o : Ordering}

attribute [local simp] order orderItems

theorem null_order : Value.null.order v = none := by
  rw [order] <;> simp

theorem object_order {fields : List (String × Value)} : (Value.object fields).order v = none := by
  rw [order] <;> simp

theorem bool_order_iff {x : Bool} :
    (Value.bool x).order v = some o ↔ ∃ y, v = .bool y ∧ compare x y = o := by
  cases v <;> simp

theorem string_order_iff {s : String} :
    (Value.string s).order v = some o ↔ ∃ t, v = .string t ∧ compare s t = o := by
  cases v <;> simp

theorem number_order_iff {x : Number} :
    (Value.number x).order v = some o ↔ ∃ y, v = .number y ∧ x.order y = o := by
  cases v <;> simp

theorem array_order_iff {xs : List Value} :
    (Value.array xs).order v = some o ↔ ∃ ys, v = .array ys ∧ orderItems xs ys = some o := by
  cases v <;> simp

end

theorem order_array {xs ys : List Value} :
    (Value.array xs).order (.array ys) = orderItems xs ys := by
  rw [order]

theorem orderItems_of_equal {x y : Value} (h : x.equal y = true) (xs ys : List Value) :
    orderItems (x :: xs) (y :: ys) = orderItems xs ys := by
  rw [orderItems, if_pos h]

theorem orderItems_of_unequal {x y : Value} (h : ¬x.equal y = true) (xs ys : List Value) :
    orderItems (x :: xs) (y :: ys) = x.order y := by
  rw [orderItems, if_neg h]

theorem orderItems_swap {xs ys : List Value} (h : Across (fun x y =>
      y.equal x = x.equal y ∧ y.order x = (x.order y).map Ordering.swap) xs ys) :
    orderItems ys xs = (orderItems xs ys).map Ordering.swap := by
  induction xs generalizing ys with
  | nil => cases ys <;> simp [orderItems]
  | cons x xs ih =>
    cases ys with
    | nil => simp [orderItems]
    | cons y ys =>
      obtain ⟨hequal, horder⟩ := h.head
      by_cases hxy : x.equal y = true
      · rw [orderItems_of_equal hxy, orderItems_of_equal (hequal.trans hxy)]
        exact ih h.tail
      · rw [orderItems_of_unequal hxy, orderItems_of_unequal (hequal ▸ hxy), horder]

/-- **The order of two values is the other way round from the other side.** -/
theorem order_swap {a b : Value} (ha : a.Ordered) (hb : b.Ordered) :
    b.order a = (a.order b).map Ordering.swap := by
  induction a using induct generalizing b with
  | null => cases b <;> rfl
  | bool x =>
    cases b with
    | bool y => simp [order, ← Std.OrientedOrd.eq_swap]
    | _ => rfl
  | number x =>
    cases b with
    | number y => simp [order, Number.order_swap]
    | _ => rfl
  | string s =>
    cases b with
    | string t => simp [order, ← Std.OrientedOrd.eq_swap]
    | _ => rfl
  | array xs ih =>
    cases b with
    | array ys =>
      rw [order_array, order_array]
      refine orderItems_swap fun x hx y hy => ?_
      have hx' := orderedItems_iff.mp ha x hx
      have hy' := orderedItems_iff.mp hb y hy
      exact ⟨equal_comm hx' hy', ih x hx hx' hy'⟩
    | _ => rfl
  | object xs ih => cases b <;> rfl

theorem orderItems_eq_iff {xs ys : List Value}
    (h : Across (fun x y => x.order y = some .eq → x.equal y = true) xs ys) :
    orderItems xs ys = some .eq ↔ equalItems xs ys = true := by
  induction xs generalizing ys with
  | nil => cases ys <;> simp [orderItems, equalItems]
  | cons x xs ih =>
    cases ys with
    | nil => simp [orderItems, equalItems]
    | cons y ys =>
      rw [equalItems_cons]
      by_cases hxy : x.equal y = true
      · rw [orderItems_of_equal hxy, ih h.tail]
        exact ⟨fun hrest => ⟨hxy, hrest⟩, And.right⟩
      · -- The first items that are not equal decide, and not that the lists are the same.
        rw [orderItems_of_unequal hxy]
        exact ⟨fun horder => absurd (h.head horder) hxy, fun hequal => absurd hequal.1 hxy⟩

/-- **Values are ordered the same exactly if they are equal** and of a kind that has an order. -/
theorem order_eq_iff {a b : Value} :
    a.order b = some .eq ↔ a.equal b = true ∧ a.isOrderable = true := by
  induction a using induct generalizing b with
  | null => cases b <;> simp [order, isOrderable]
  | bool x => cases b <;> simp [order, equal, isOrderable]
  | number x => cases b <;> simp [order, equal, isOrderable]
  | string s => cases b <;> simp [order, equal, isOrderable]
  | array xs ih =>
    have hitems (ys : List Value) : orderItems xs ys = some .eq ↔ equalItems xs ys = true :=
      orderItems_eq_iff fun x hx y _ horder => ((ih x hx).mp horder).1
    simp only [array_order_iff, array_equal_iff, hitems, isOrderable, and_true]
  | object xs ih => cases b <;> simp [order, isOrderable]

/-- What has an order at all is of a kind that has one. -/
theorem isOrderable_of_order {a b : Value} {o : Ordering} (h : a.order b = some o) :
    a.isOrderable = true := by
  cases a with
  | null => simp [null_order] at h
  | object fields => simp [object_order] at h
  | _ => rfl

theorem not_equal_of_order {a b : Value} {o : Ordering} (h : a.order b = some o) (ho : o ≠ .eq) :
    ¬a.equal b = true := by
  intro hequal
  have heq := order_eq_iff.mpr ⟨hequal, isOrderable_of_order h⟩
  rw [h] at heq
  exact ho (Option.some.inj heq)

end Json.Value

/-! ## Operators -/

namespace Operator

open Json

variable {a b : Value}

theorem less_iff : less.holds a b = true ↔ a.order b = some .lt := by
  rw [holds, beq_iff_eq]

theorem greater_iff : greater.holds a b = true ↔ a.order b = some .gt := by
  rw [holds, beq_iff_eq]

theorem greaterOrEqual_iff : greaterOrEqual.holds a b = true ↔
    a.order b = some .gt ∨ a.order b = some .eq := by
  rw [holds]
  rcases a.order b with _ | _ | _ | _ <;> decide

/-- **Operators agree with one another.** Equality is reflexive and symmetric, order is the other
way round from the other side, and is that of the same exactly for values that are equal and have an
order. So greater and less are each other's counterparts, and so are greater or equal and less or
equal; what is greater or equal is greater, or equal and of a kind that has an order; and no two
values are more than one of less, equal and greater. -/
theorem operators_agree (ha : a.Ordered) (hb : b.Ordered) :
    a.equal a = true ∧
    b.equal a = a.equal b ∧
    b.order a = (a.order b).map Ordering.swap ∧
    (a.order b = some .eq ↔ a.equal b = true ∧ a.isOrderable = true) ∧
    greater.holds a b = less.holds b a ∧
    greaterOrEqual.holds a b = lessOrEqual.holds b a ∧
    (greaterOrEqual.holds a b = true ↔
      greater.holds a b = true ∨ equal.holds a b = true ∧ a.isOrderable = true) ∧
    ¬(less.holds a b = true ∧ equal.holds a b = true) ∧
    ¬(equal.holds a b = true ∧ greater.holds a b = true) ∧
    ¬(less.holds a b = true ∧ greater.holds a b = true) := by
  refine ⟨Value.equal_self ha, Value.equal_comm ha hb, Value.order_swap ha hb,
    Value.order_eq_iff, ?_, ?_, ?_, ?_, ?_, ?_⟩
  · rw [holds, holds, Value.order_swap ha hb]
    rcases a.order b with _ | _ | _ | _ <;> rfl
  · rw [holds, holds, Value.order_swap ha hb]
    rcases a.order b with _ | _ | _ | _ <;> rfl
  · rw [greaterOrEqual_iff, greater_iff, Value.order_eq_iff]
    exact Iff.rfl
  · rintro ⟨hless, hequal⟩
    exact Value.not_equal_of_order (less_iff.mp hless) nofun hequal
  · rintro ⟨hequal, hgreater⟩
    exact Value.not_equal_of_order (greater_iff.mp hgreater) nofun hequal
  · rintro ⟨hless, hgreater⟩
    exact nomatch (less_iff.mp hless).symm.trans (greater_iff.mp hgreater)

/-- Of two lists that begin with equal objects the second items decide, from either side. -/
theorem operators_agree_lists :
    let one := Value.number (.integer ⟨1, by decide⟩)
    let onePointZero := Value.number (.double ⟨false, 0x3ff0000000000000, by decide⟩)
    let a := Value.array [.object [("at", one), ("by", .null)], .string "low"]
    let b := Value.array [.object [("at", onePointZero), ("by", .null)], .string "high"]
    a.Ordered ∧ b.Ordered ∧ a.order b = some .gt ∧ b.order a = some .lt ∧
      greaterOrEqual.holds a b = true ∧ lessOrEqual.holds b a = true := by
  intro one onePointZero a b
  have hnames : "at" < "by" := by decide
  have ha : a.Ordered := by
    simp only [a, one, Value.Ordered, Value.OrderedItems, Value.OrderedFields,
      List.forall_mem_singleton, hnames, List.not_mem_nil, false_imp_iff, implies_true, and_self]
  have hb : b.Ordered := by
    simp only [b, onePointZero, Value.Ordered, Value.OrderedItems, Value.OrderedFields,
      List.forall_mem_singleton, hnames, List.not_mem_nil, false_imp_iff, implies_true, and_self]
  have hgreater : a.order b = some .gt := by decide +kernel
  obtain ⟨-, -, hswap, -, -, hcounterpart, hsplit, -⟩ := operators_agree ha hb
  have hge : greaterOrEqual.holds a b = true := hsplit.mpr (.inl (greater_iff.mpr hgreater))
  exact ⟨ha, hb, hgreater, by rw [hswap, hgreater]; rfl, hge, hcounterpart ▸ hge⟩

end Operator

end AlertRules
