import AlertRules.Evaluation
import AlertRules.Proofs.Validation.WellFormed

/-!
# What a condition looks at

A condition meets an event only in its leaves, the comparisons in it: each looks up one field and
compares what is there (`Comparison.TrueOf`). Groups put the outcomes together and never turn one
around, so a condition that holds goes on to hold as long as no true leaf becomes false
(`holds_mono`). What the leaves do not look up does not matter (`holds_congr`).

Both are proved by induction on the condition; `Condition.induct` goes from all children of a group
to the group.

> `Condition.holds_by_leaves`: of two events the second satisfies whatever the first does if each
> leaf that is true of the first is true of the second, and both satisfy the same if they have the
> same under every path in the condition.
-/

namespace AlertRules

open Json

/-! ## Leaves -/

/-- That a comparison is true of an event: the field it names is there, and has a value as it should
be. -/
def Comparison.TrueOf (leaf : Comparison) (event : Value) : Prop :=
  ∃ actual, event.resolve leaf.field = some actual ∧ leaf.op.holds actual leaf.value = true

theorem Comparison.holds_iff {leaf : Comparison} {event : Value} :
    leaf.holds event = true ↔ leaf.TrueOf event := by
  unfold holds TrueOf
  cases event.resolve leaf.field with
  | none => simp
  | some actual => simp

/-- A comparison sees one field of an event. -/
theorem Comparison.holds_congr {leaf : Comparison} {event event' : Value}
    (h : event.resolve leaf.field = event'.resolve leaf.field) :
    leaf.holds event = leaf.holds event' := by
  unfold holds
  rw [h]

namespace Condition

/-- What holds of every leaf and of the empty condition, and of a group if it does of its children,
holds of all conditions. -/
@[elab_as_elim]
theorem induct {P : Condition → Prop} (comparison : ∀ leaf, P (.comparison leaf))
    (allOf : ∀ children, (∀ c ∈ children, P c) → P (.allOf children))
    (anyOf : ∀ children, (∀ c ∈ children, P c) → P (.anyOf children)) (empty : P .empty)
    (c : Condition) : P c :=
  @Condition.rec P (fun children => ∀ c ∈ children, P c) comparison allOf anyOf empty
    (List.forall_mem_nil _) (fun _ _ hc hrest => List.forall_mem_cons.mpr ⟨hc, hrest⟩) c

/-- That a comparison is a leaf of a condition, at some place. -/
def HasLeaf (c : Condition) (leaf : Comparison) : Prop :=
  ∃ place, c.nodeAt? place = some (.comparison leaf)

variable {leaf leaf' : Comparison} {children : List Condition}

/-- The leaves of a group are those of its children. -/
theorem hasLeaf_iff {c : Condition} :
    c.HasLeaf leaf ↔ c = .comparison leaf ∨ ∃ child ∈ c.children, child.HasLeaf leaf := by
  constructor
  · rintro ⟨place, hplace⟩
    cases place with
    | nil =>
      cases hplace
      exact .inl rfl
    | cons i place =>
      obtain ⟨child, hchild, hplace⟩ := exists_child hplace
      exact .inr ⟨child, List.mem_of_getElem? hchild, place, hplace⟩
  · rintro (rfl | ⟨child, hchild, place, hplace⟩)
    · exact ⟨[], rfl⟩
    · obtain ⟨i, hi⟩ := List.getElem?_of_mem hchild
      exact ⟨i :: place, (nodeAt?_cons hi).trans hplace⟩

@[simp] theorem hasLeaf_comparison : (comparison leaf).HasLeaf leaf' ↔ leaf = leaf' := by
  rw [hasLeaf_iff]
  simp [Condition.children]

@[simp] theorem hasLeaf_allOf : (allOf children).HasLeaf leaf ↔ ∃ c ∈ children, c.HasLeaf leaf := by
  rw [hasLeaf_iff]
  simp [Condition.children]

@[simp] theorem hasLeaf_anyOf : (anyOf children).HasLeaf leaf ↔ ∃ c ∈ children, c.HasLeaf leaf := by
  rw [hasLeaf_iff]
  simp [Condition.children]

@[simp] theorem not_hasLeaf_empty : ¬ empty.HasLeaf leaf := by
  rw [hasLeaf_iff]
  simp [Condition.children]

/-! ## Groups -/

variable {event event' : Value}

theorem allHold_iff : allHold event children = true ↔ ∀ c ∈ children, c.holds event = true := by
  induction children with
  | nil => simp [allHold]
  | cons c rest ih => simp [allHold, ih]

theorem anyHolds_iff : anyHolds event children = true ↔ ∃ c ∈ children, c.holds event = true := by
  induction children with
  | nil => simp [anyHolds]
  | cons c rest ih => simp [anyHolds, ih]

/-- **A condition that holds goes on to hold** if no leaf that is true becomes false. -/
theorem holds_mono (c : Condition)
    (hleaves : ∀ leaf, c.HasLeaf leaf → leaf.holds event = true → leaf.holds event' = true)
    (h : c.holds event = true) : c.holds event' = true := by
  induction c using induct with
  | comparison leaf => exact hleaves leaf (hasLeaf_comparison.mpr rfl) h
  | allOf children ih =>
    rw [holds, allHold_iff] at h ⊢
    intro c hc
    have hunder : ∀ leaf, c.HasLeaf leaf → leaf.holds event = true → leaf.holds event' = true := by
      intro leaf hleaf
      exact hleaves leaf (hasLeaf_allOf.mpr ⟨c, hc, hleaf⟩)
    exact ih c hc hunder (h c hc)
  | anyOf children ih =>
    rw [holds, anyHolds_iff] at h ⊢
    obtain ⟨c, hc, htrue⟩ := h
    have hunder : ∀ leaf, c.HasLeaf leaf → leaf.holds event = true → leaf.holds event' = true := by
      intro leaf hleaf
      exact hleaves leaf (hasLeaf_anyOf.mpr ⟨c, hc, hleaf⟩)
    exact ⟨c, hc, ih c hc hunder htrue⟩
  | empty => exact nomatch h

/-- **What the leaves do not look up does not matter.** -/
theorem holds_congr (c : Condition)
    (hfields : ∀ leaf, c.HasLeaf leaf → event.resolve leaf.field = event'.resolve leaf.field) :
    c.holds event = c.holds event' := by
  -- The leaves have the same outcomes, so neither event makes one false that the other makes true.
  have hsame : ∀ leaf, c.HasLeaf leaf → leaf.holds event = leaf.holds event' := by
    intro leaf hleaf
    exact Comparison.holds_congr (hfields leaf hleaf)
  rw [Bool.eq_iff_iff]
  constructor
  · apply c.holds_mono
    intro leaf hleaf htrue
    rw [← hsame leaf hleaf]
    exact htrue
  · apply c.holds_mono
    intro leaf hleaf htrue
    rw [hsame leaf hleaf]
    exact htrue

/-- **A condition depends on its leaves only, and on them monotonically.** If each leaf that is true
of an event is true of another, the condition holds of the other if it holds of the one. If the two
have the same value, or both nothing, under every path in the condition, it holds of both or of
neither. -/
theorem holds_by_leaves (c : Condition) (event event' : Value) :
    ((∀ leaf, c.HasLeaf leaf → leaf.TrueOf event → leaf.TrueOf event') →
      c.holds event = true → c.holds event' = true) ∧
    ((∀ leaf, c.HasLeaf leaf → event.resolve leaf.field = event'.resolve leaf.field) →
      c.holds event = c.holds event') := by
  constructor
  · intro hleaves
    apply c.holds_mono
    intro leaf hleaf htrue
    exact Comparison.holds_iff.mpr (hleaves leaf hleaf (Comparison.holds_iff.mp htrue))
  · exact c.holds_congr

/-- That a server is up, or is a spare that is not broken. -/
def isServing : Condition :=
  .anyOf [.comparison ⟨"status", .equal, .string "up"⟩,
    .allOf [.comparison ⟨"server.spare", .equal, .bool true⟩,
      .comparison ⟨"status", .notEqual, .string "broken"⟩, .anyOf [.empty, .allOf []]]]

theorem forall_leaf_isServing {P : Comparison → Prop} (hup : P ⟨"status", .equal, .string "up"⟩)
    (hspare : P ⟨"server.spare", .equal, .bool true⟩)
    (hbroken : P ⟨"status", .notEqual, .string "broken"⟩) :
    ∀ leaf, isServing.HasLeaf leaf → P leaf := by
  intro leaf hleaf
  simp [isServing] at hleaf
  rcases hleaf with rfl | rfl | rfl
  · exact hup
  · exact hspare
  · exact hbroken

/-- A spare in some state, with one more field. -/
def spare (status : String) (load : Value) : Value :=
  .object [("load", load), ("server", .object [("spare", .bool true)]), ("status", .string status)]

/-- A spare goes on serving when it comes up, and whatever its load is. -/
theorem holds_by_leaves_serving :
    (∀ leaf, isServing.HasLeaf leaf → leaf.TrueOf (spare "down" .null) →
      leaf.TrueOf (spare "up" .null)) ∧
    (∀ leaf, isServing.HasLeaf leaf →
      (spare "up" .null).resolve leaf.field = (spare "up" (.string "high")).resolve leaf.field) ∧
    isServing.holds (spare "down" .null) = true ∧ isServing.holds (spare "up" .null) = true ∧
    isServing.holds (spare "up" (.string "high")) = true := by
  have hleaves : ∀ leaf, isServing.HasLeaf leaf →
      leaf.TrueOf (spare "down" .null) → leaf.TrueOf (spare "up" .null) := by
    simp only [← Comparison.holds_iff]
    exact forall_leaf_isServing (by decide) (by decide) (by decide)
  have hfields : ∀ leaf, isServing.HasLeaf leaf →
      (spare "up" .null).resolve leaf.field = (spare "up" (.string "high")).resolve leaf.field :=
    forall_leaf_isServing (by decide) (by decide) (by decide)
  have hdown : isServing.holds (spare "down" .null) = true := by decide
  have hup := (holds_by_leaves isServing (spare "down" .null) (spare "up" .null)).1 hleaves hdown
  have hsame :=
    (holds_by_leaves isServing (spare "up" .null) (spare "up" (.string "high"))).2 hfields
  exact ⟨hleaves, hfields, hdown, hup, hsame.symm.trans hup⟩

end Condition

end AlertRules
