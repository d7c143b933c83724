import AlertRules.Validation

/-!
# What passes the checks

The nodes of a condition are found by their places: which child to go to in each group on the way
down (`Condition.nodeAt?`). What holds at every place holds at the root and throughout every child
(`Condition.throughout_iff`), and this is how conditions are checked: a node, then its children from
left to right, up to the first fault. So the checks pass exactly if every node is well formed by
itself, wherever it stands.

> `Validator.check_eq_ok_iff`: a rule passes if and only if its name is not blank, its condition is
> not too deep, and every node of the condition is well formed.
-/

namespace AlertRules

open Json

/-! ## Nodes and their places -/

namespace Condition

/-- The conditions in a group. -/
def children : Condition → List Condition
  | .allOf children | .anyOf children => children
  | .comparison _ | .empty => []

/-- The node at a place, which is the number of the child to go to in each group on the way down. -/
def nodeAt? : Condition → List Nat → Option Condition
  | c, [] => some c
  | c, i :: place =>
    match c.children[i]? with
    | some child => nodeAt? child place
    | none => none

/-- That something holds at every place of a condition. -/
def Throughout (P : Condition → Prop) (c : Condition) : Prop :=
  ∀ place node, c.nodeAt? place = some node → P node

theorem nodeAt?_cons {c child : Condition} {i : Nat} {place : List Nat}
    (hchild : c.children[i]? = some child) : c.nodeAt? (i :: place) = child.nodeAt? place := by
  rw [nodeAt?, hchild]

/-- A place below a condition is in one of its children. -/
theorem exists_child {c node : Condition} {i : Nat} {place : List Nat}
    (h : c.nodeAt? (i :: place) = some node) :
    ∃ child, c.children[i]? = some child ∧ child.nodeAt? place = some node := by
  cases hchild : c.children[i]? with
  | none =>
    rw [nodeAt?, hchild] at h
    exact nomatch h
  | some child =>
    rw [nodeAt?_cons hchild] at h
    exact ⟨child, rfl, h⟩

theorem throughout_iff {P : Condition → Prop} {c : Condition} :
    Throughout P c ↔ P c ∧ ∀ child ∈ c.children, Throughout P child := by
  constructor
  · intro h
    refine ⟨h [] c rfl, fun child hchild place node hnode => ?_⟩
    obtain ⟨i, hi⟩ := List.getElem?_of_mem hchild
    exact h (i :: place) node ((nodeAt?_cons hi).trans hnode)
  · rintro ⟨hc, hchildren⟩ place node hnode
    cases place with
    | nil =>
      cases hnode
      exact hc
    | cons i place =>
      obtain ⟨child, hchild, hnode⟩ := exists_child hnode
      exact hchildren child (List.mem_of_getElem? hchild) place node hnode

end Condition

/-! ## Well-formed nodes -/

namespace Validator

variable (v : Validator)

/-- That a comparison names a field, and expects what its operator can make use of. -/
structure FitsOperator (c : Comparison) : Prop where
  field : ∃ ch ∈ c.field.toList, Text.isBlankChar ch = false
  pattern : c.op = .regex → ∃ p, c.value = .string p ∧ v.acceptsPattern p = true
  list : c.op = .member → ∃ items, c.value = .array items

/-- That a node is well formed by itself, whatever its children are like. -/
def WellFormed : Condition → Prop
  | .empty => False
  | .allOf children | .anyOf children => children ≠ []
  | .comparison c => v.FitsOperator c

end Validator

theorem Text.not_isBlank_iff {s : String} :
    ¬Text.isBlank s = true ↔ ∃ ch ∈ s.toList, Text.isBlankChar ch = false := by
  simp [Text.isBlank]

/-! ## Checks -/

namespace Validator

variable {v : Validator}

theorem checkComparison_eq_ok_iff {path : String} {c : Comparison} :
    v.checkComparison path c = .ok () ↔ v.FitsOperator c := by
  obtain ⟨field, op, value⟩ := c
  unfold checkComparison
  by_cases hblank : Text.isBlank field = true
  · rw [if_pos hblank]
    exact ⟨nofun, fun h => absurd hblank (Text.not_isBlank_iff.mpr h.field)⟩
  · rw [if_neg hblank]
    have hfield := Text.not_isBlank_iff.mp hblank
    cases op with
    | regex =>
      cases value with
      | string p =>
        by_cases hp : v.acceptsPattern p = true
        · exact ⟨fun _ => ⟨hfield, fun _ => ⟨p, rfl, hp⟩, nofun⟩, fun _ => if_pos hp⟩
        · refine ⟨fun h => absurd ((if_neg hp).symm.trans h) nofun, fun h => ?_⟩
          obtain ⟨q, hq, haccepts⟩ := h.pattern rfl
          cases hq
          exact absurd haccepts hp
      | _ =>
        refine ⟨nofun, fun h => ?_⟩
        obtain ⟨q, hq, -⟩ := h.pattern rfl
        exact nomatch hq
    | member =>
      cases value with
      | array items => exact ⟨fun _ => ⟨hfield, nofun, fun _ => ⟨items, rfl⟩⟩, fun _ => rfl⟩
      | _ =>
        refine ⟨nofun, fun h => ?_⟩
        obtain ⟨items, hitems⟩ := h.list rfl
        exact nomatch hitems
    | _ => exact ⟨fun _ => ⟨hfield, nofun, nofun⟩, fun _ => rfl⟩

/-- Checking the children passes if checking the first one does and then checking the others. -/
theorem checkChildren_cons {path : String} {index : Nat} {c : Condition} {rest : List Condition} :
    v.checkChildren path index (c :: rest) = .ok () ↔
      v.checkCondition (childPath path index) c = .ok () ∧
        v.checkChildren path (index + 1) rest = .ok () := by
  rw [checkChildren]
  cases v.checkCondition (childPath path index) c with
  | ok u => exact ⟨fun h => ⟨rfl, h⟩, And.right⟩
  | error f =>
    constructor
    · intro h
      cases h
    · rintro ⟨h, -⟩
      cases h

mutual

/-- **A condition passes exactly if every node is well formed**, wherever it stands. -/
theorem checkCondition_eq_ok_iff : ∀ {path : String} {c : Condition},
    v.checkCondition path c = .ok () ↔ c.Throughout v.WellFormed
  | path, .empty => by
    rw [Condition.throughout_iff]
    exact ⟨nofun, fun h => h.1.elim⟩
  | path, .comparison c => by
    rw [Condition.throughout_iff, checkCondition, checkComparison_eq_ok_iff]
    exact ⟨fun h => ⟨h, fun _ hchild => nomatch hchild⟩, And.left⟩
  | path, .allOf [] => by
    rw [Condition.throughout_iff]
    exact ⟨nofun, fun h => absurd rfl h.1⟩
  | path, .anyOf [] => by
    rw [Condition.throughout_iff]
    exact ⟨nofun, fun h => absurd rfl h.1⟩
  | path, .allOf (c :: rest) => by
    rw [Condition.throughout_iff, checkCondition, checkChildren_eq_ok_iff]
    exact ⟨fun h => ⟨List.cons_ne_nil c rest, h⟩, And.right⟩
  | path, .anyOf (c :: rest) => by
    rw [Condition.throughout_iff, checkCondition, checkChildren_eq_ok_iff]
    exact ⟨fun h => ⟨List.cons_ne_nil c rest, h⟩, And.right⟩

theorem checkChildren_eq_ok_iff : ∀ {path : String} {index : Nat} {cs : List Condition},
    v.checkChildren path index cs = .ok () ↔ ∀ c ∈ cs, c.Throughout v.WellFormed
  | _, _, [] => by
    rw [checkChildren]
    exact ⟨fun _ => nofun, fun _ => rfl⟩
  | path, index, c :: rest => by
    rw [checkChildren_cons, checkCondition_eq_ok_iff, checkChildren_eq_ok_iff, List.forall_mem_cons]

end

/-- **A rule passes the checks exactly if it is well formed**: it has a name that is not blank, a
condition that is not too deep, and at every place of the condition a node that is well formed by
itself. -/
theorem check_eq_ok_iff (v : Validator) (r : Rule) : v.check r = .ok () ↔
    (∃ ch ∈ r.name.toList, Text.isBlankChar ch = false) ∧ r.condition.depth ≤ v.maxDepth ∧
      ∀ place node, r.condition.nodeAt? place = some node → v.WellFormed node := by
  unfold check
  by_cases hblank : Text.isBlank r.name = true
  · rw [if_pos hblank]
    exact ⟨nofun, fun h => absurd hblank (Text.not_isBlank_iff.mpr h.1)⟩
  · rw [if_neg hblank]
    by_cases hdeep : v.maxDepth < r.condition.depth
    · rw [if_pos hdeep]
      exact ⟨nofun, fun h => absurd hdeep (Nat.not_lt.mpr h.2.1)⟩
    · rw [if_neg hdeep, checkCondition_eq_ok_iff]
      exact ⟨fun h => ⟨Text.not_isBlank_iff.mp hblank, Nat.le_of_not_lt hdeep, h⟩, fun h => h.2.2⟩

end Validator

end AlertRules
