import AlertRules.Proofs.Validation.WellFormed
import Mathlib.Data.List.Lex

/-!
# The node that is reported

Places are compared as lists of numbers: a place comes after those above it, and whatever is under
one child comes after whatever is under the children to its left. This is the order in which a
condition is checked, so a check that fails has met the first node that is not well formed
(`FirstFault`), and everything before that node is well formed.

Whoever reads the fault has only its path. The path of a node spells out its place
(`Condition.pathAt`), and a group is reported by the path of its list of children
(`Condition.reportPath`). Two nodes of one condition never have the same text for that
(`reportPath_injective`): up to where two places part they have the same text, and there the numbers
of two children differ, or one of the two texts ends.

> `Validator.reports_first_fault`: a rule that has a name and is not too deep is refused with the
> path of the first node that is not well formed, and with that of no other node.
-/

namespace AlertRules

/-! ## Paths -/

namespace Condition

/-- The path a node with a path is reported by: a group is, by that of its children. -/
def reportPath (path : String) : Condition → String
  | .allOf _ => path ++ ".and"
  | .anyOf _ => path ++ ".or"
  | .comparison _ | .empty => path

/-- The path of the node at a place in a condition that has a path itself. -/
def pathAt (path : String) : Condition → List Nat → String
  | _, [] => path
  | c, i :: place =>
    match c.children[i]? with
    | some child => pathAt (c.reportPath path ++ "[" ++ toString i ++ "]") child place
    | none => path

variable {path : String} {c child node other : Condition} {i j : Nat} {place place' : List Nat}

theorem pathAt_cons (hchild : c.children[i]? = some child) :
    c.pathAt path (i :: place) =
      child.pathAt (c.reportPath path ++ "[" ++ toString i ++ "]") place := by
  rw [pathAt, hchild]

theorem prefix_reportPath (path : String) (c : Condition) :
    path.toList <+: (c.reportPath path).toList := by
  cases c with
  | allOf children =>
    rw [reportPath, String.toList_append]
    exact List.prefix_append ..
  | anyOf children =>
    rw [reportPath, String.toList_append]
    exact List.prefix_append ..
  | comparison cmp => exact List.prefix_rfl
  | empty => exact List.prefix_rfl

/-- The path of a condition is where the paths of all nodes in it begin. -/
theorem prefix_pathAt (path : String) (c : Condition) (place : List Nat) :
    path.toList <+: (c.pathAt path place).toList := by
  induction place generalizing path c with
  | nil => exact List.prefix_rfl
  | cons i place ih =>
    rw [pathAt]
    split
    next child _ =>
      have hstep : path.toList <+: (c.reportPath path ++ "[" ++ toString i ++ "]").toList := by
        rw [String.toList_append, String.toList_append, String.toList_append, List.append_assoc,
          List.append_assoc]
        exact (prefix_reportPath path c).trans (List.prefix_append ..)
      exact hstep.trans (ih _ child)
    next => exact List.prefix_rfl

/-- What a node is reported by begins with the bracket behind the group it is in. -/
theorem exists_report_child (path : String) (child : Condition) (place : List Nat) (i : Nat)
    (node : Condition) :
    ∃ rest, (node.reportPath (child.pathAt (path ++ "[" ++ toString i ++ "]") place)).toList =
      path.toList ++ '[' :: (Nat.toDigits 10 i ++ ']' :: rest) := by
  have hprefix := (prefix_pathAt (path ++ "[" ++ toString i ++ "]") child place).trans
    (prefix_reportPath _ node)
  obtain ⟨rest, hrest⟩ := hprefix
  refine ⟨rest, ?_⟩
  have hdigits : (toString i).toList = Nat.toDigits 10 i := Nat.toList_repr
  rw [← hrest, String.toList_append, String.toList_append, String.toList_append, hdigits]
  simp

/-- A number ends where the bracket behind it stands. -/
theorem toDigits_append_bracket_inj {rest rest' : List Char}
    (h : Nat.toDigits 10 i ++ ']' :: rest = Nat.toDigits 10 j ++ ']' :: rest') : i = j := by
  have htake : ∀ (n : Nat) (cs : List Char),
      (Nat.toDigits 10 n ++ ']' :: cs).takeWhile Char.isDigit = Nat.toDigits 10 n := by
    intro n cs
    rw [List.takeWhile_append_of_pos fun ch hch =>
      Nat.isDigit_of_mem_toDigits (by decide) (by decide) hch]
    simp
  have hdigits := congrArg (List.takeWhile Char.isDigit) h
  rw [htake, htake] at hdigits
  have hvalue := congrArg (fun ds => Nat.ofDigitChars 10 ds 0) hdigits
  simpa using hvalue

/-- A node in a group is not reported by what the group is. -/
theorem report_child_ne (path : String) (child : Condition) (place : List Nat) (i : Nat)
    (node : Condition) :
    node.reportPath (child.pathAt (path ++ "[" ++ toString i ++ "]") place) ≠ path := by
  intro heq
  obtain ⟨rest, hrest⟩ := exists_report_child path child place i node
  rw [heq] at hrest
  have hlength := congrArg List.length hrest
  simp at hlength

/-- Two nodes in a group that are reported alike are under the same child. -/
theorem index_eq_of_report_eq {child' : Condition}
    (h : node.reportPath (child.pathAt (path ++ "[" ++ toString i ++ "]") place) =
      other.reportPath (child'.pathAt (path ++ "[" ++ toString j ++ "]") place')) : i = j := by
  obtain ⟨rest, hrest⟩ := exists_report_child path child place i node
  obtain ⟨rest', hrest'⟩ := exists_report_child path child' place' j other
  rw [h, hrest'] at hrest
  have hbehind := List.append_cancel_left hrest
  exact (toDigits_append_bracket_inj (List.cons.inj hbehind).2).symm

/-- **No two nodes of a condition are reported alike.** -/
theorem reportPath_injective (hnode : c.nodeAt? place = some node)
    (hother : c.nodeAt? place' = some other)
    (h : node.reportPath (c.pathAt path place) = other.reportPath (c.pathAt path place')) :
    place = place' := by
  induction place generalizing path c place' with
  | nil =>
    cases hnode
    cases place' with
    | nil => rfl
    | cons j place' =>
      obtain ⟨child, hchild, -⟩ := exists_child hother
      rw [pathAt_cons hchild] at h
      exact absurd h.symm (report_child_ne _ child place' j other)
  | cons i place ih =>
    obtain ⟨child, hchild, hnode⟩ := exists_child hnode
    rw [pathAt_cons hchild] at h
    cases place' with
    | nil =>
      cases hother
      exact absurd h (report_child_ne _ child place i node)
    | cons j place' =>
      obtain ⟨child', hchild', hother⟩ := exists_child hother
      rw [pathAt_cons hchild'] at h
      obtain rfl := index_eq_of_report_eq h
      -- One number, so one child: the places part further down, if at all.
      rw [hchild] at hchild'
      cases hchild'
      rw [ih hnode hother h]

end Condition

/-! ## The first fault -/

namespace Validator

/-- That the node at a place is the first of a condition that is not well formed: whatever has an
earlier place is. -/
structure FirstFault (v : Validator) (c : Condition) (place : List Nat) (node : Condition) :
    Prop where
  found : c.nodeAt? place = some node
  fault : ¬ v.WellFormed node
  before : ∀ earlier other, earlier < place → c.nodeAt? earlier = some other → v.WellFormed other

variable {v : Validator} {c child node node' : Condition} {i : Nat} {place place' : List Nat}

namespace FirstFault

/-- There is at most one. -/
theorem place_eq (h : v.FirstFault c place node) (h' : v.FirstFault c place' node') :
    place = place' := by
  rcases lt_trichotomy place place' with hlt | heq | hlt
  · exact absurd (h'.before place node hlt h.found) h.fault
  · exact heq
  · exact absurd (h.before place' node' hlt h'.found) h'.fault

/-- A condition that is not well formed itself comes before all it holds. -/
theorem root (h : ¬ v.WellFormed c) : v.FirstFault c [] c := by
  refine ⟨rfl, h, ?_⟩
  intro earlier other hlt
  exact absurd hlt (List.not_lt_nil earlier)

/-- The first fault of a child is that of its group, if nothing is wrong with the group itself or
with the children to the left. -/
theorem ofChild (hc : v.WellFormed c) (hchild : c.children[i]? = some child)
    (hleft : ∀ j < i, ∀ q, c.children[j]? = some q → q.Throughout v.WellFormed)
    (h : v.FirstFault child place node) : v.FirstFault c (i :: place) node := by
  refine ⟨(Condition.nodeAt?_cons hchild).trans h.found, h.fault, ?_⟩
  intro earlier other hearlier hother
  cases earlier with
  | nil =>
    cases hother
    exact hc
  | cons j earlier =>
    obtain ⟨q, hq, hother⟩ := Condition.exists_child hother
    rcases List.cons_lt_cons_iff.mp hearlier with hji | ⟨rfl, hlt⟩
    · exact hleft j hji q hq earlier other hother
    · rw [hchild] at hq
      cases hq
      exact h.before earlier other hlt hother

end FirstFault

/-! ## What a check reports -/

/-- That a fault is what is said of the first node of a condition that is not well formed. -/
def Blames (v : Validator) (path : String) (c : Condition) (f : RuleFault) : Prop :=
  ∃ place node message, v.FirstFault c place node ∧
    f = .invalid (node.reportPath (c.pathAt path place)) message

theorem blames_root {path message : String} (h : ¬ v.WellFormed c) :
    v.Blames path c (.invalid (c.reportPath path) message) :=
  ⟨[], c, message, .root h, rfl⟩

theorem checkComparison_error {path : String} {cmp : Comparison} {f : RuleFault}
    (h : v.checkComparison path cmp = .error f) : ∃ message, f = .invalid path message := by
  obtain ⟨field, op, value⟩ := cmp
  unfold checkComparison at h
  by_cases hblank : Text.isBlank field = true
  · rw [if_pos hblank] at h
    cases h
    exact ⟨_, rfl⟩
  · rw [if_neg hblank] at h
    dsimp only at h
    split at h
    next pattern =>
      split at h
      next => exact nomatch h
      next =>
        cases h
        exact ⟨_, rfl⟩
    next =>
      cases h
      exact ⟨_, rfl⟩
    next => exact nomatch h
    next =>
      cases h
      exact ⟨_, rfl⟩
    next => exact nomatch h

/-- What is said of a child is said of its group, if nothing is wrong with the group itself or with
the children to the left. -/
theorem Blames.ofChild {path : String} {f : RuleFault} (hc : v.WellFormed c)
    (hchild : c.children[i]? = some child)
    (hleft : ∀ j < i, ∀ q, c.children[j]? = some q → q.Throughout v.WellFormed)
    (h : v.Blames (childPath (c.reportPath path) i) child f) : v.Blames path c f := by
  obtain ⟨place, node, message, hfirst, rfl⟩ := h
  refine ⟨i :: place, node, message, .ofChild hc hchild hleft hfirst, ?_⟩
  rw [Condition.pathAt_cons hchild]
  rfl

mutual

/-- **A check that fails blames the first node that is not well formed.** -/
theorem blames_of_checkCondition : ∀ {path : String} {c : Condition} {f : RuleFault},
    v.checkCondition path c = .error f → v.Blames path c f
  | path, .empty, f, h => by
    cases h
    exact blames_root id
  | path, .comparison cmp, f, h => by
    obtain ⟨message, rfl⟩ := checkComparison_error h
    refine blames_root (c := .comparison cmp) ?_
    intro hfits
    have hok : v.checkComparison path cmp = .ok () := checkComparison_eq_ok_iff.mpr hfits
    exact nomatch hok.symm.trans h
  | path, .allOf [], f, h => by
    cases h
    exact blames_root (c := .allOf []) fun hne => hne rfl
  | path, .anyOf [], f, h => by
    cases h
    exact blames_root (c := .anyOf []) fun hne => hne rfl
  | path, .allOf (first :: rest), f, h => by
    rw [checkCondition] at h
    obtain ⟨i, child, hchild, hleft, hblames⟩ := blames_of_checkChildren h
    rw [Nat.zero_add] at hblames
    exact hblames.ofChild (c := .allOf (first :: rest)) (List.cons_ne_nil first rest) hchild hleft
  | path, .anyOf (first :: rest), f, h => by
    rw [checkCondition] at h
    obtain ⟨i, child, hchild, hleft, hblames⟩ := blames_of_checkChildren h
    rw [Nat.zero_add] at hblames
    exact hblames.ofChild (c := .anyOf (first :: rest)) (List.cons_ne_nil first rest) hchild hleft

/-- The children are checked from left to right. -/
theorem blames_of_checkChildren :
    ∀ {path : String} {index : Nat} {cs : List Condition} {f : RuleFault},
    v.checkChildren path index cs = .error f → ∃ i child, cs[i]? = some child ∧
      (∀ j < i, ∀ q, cs[j]? = some q → q.Throughout v.WellFormed) ∧
      v.Blames (childPath path (index + i)) child f
  | path, index, [], f, h => nomatch h
  | path, index, first :: rest, f, h => by
    rw [checkChildren] at h
    split at h
    next hfirst =>
      obtain ⟨i, child, hchild, hleft, hblames⟩ := blames_of_checkChildren h
      refine ⟨i + 1, child, hchild, ?_, ?_⟩
      · intro j hj q hq
        cases j with
        | zero =>
          cases hq
          exact checkCondition_eq_ok_iff.mp hfirst
        | succ j => exact hleft j (Nat.lt_of_succ_lt_succ hj) q hq
      · rw [show index + (i + 1) = index + 1 + i by omega]
        exact hblames
    next g hfirst =>
      cases h
      refine ⟨0, first, rfl, ?_, blames_of_checkCondition hfirst⟩
      intro j hj
      exact absurd hj (Nat.not_lt_zero j)

end

/-- **The path that is reported is that of the first node that is not well formed.** Let a rule have
a name that is not blank and a condition that is not too deep. If it is refused, there is a first
node that is not well formed, and it is reported by its path; a node is reported only if it is that
one; and no two nodes of the condition are reported alike, so that the path says which one it is. -/
theorem reports_first_fault (v : Validator) (r : Rule)
    (hname : ∃ ch ∈ r.name.toList, Text.isBlankChar ch = false)
    (hdepth : r.condition.depth ≤ v.maxDepth) :
    (∀ f, v.check r = .error f → ∃ place node message, v.FirstFault r.condition place node ∧
      f = .invalid (node.reportPath (r.condition.pathAt "condition" place)) message) ∧
    (∀ place node, r.condition.nodeAt? place = some node →
      ((∃ message, v.check r =
          .error (.invalid (node.reportPath (r.condition.pathAt "condition" place)) message)) ↔
        v.FirstFault r.condition place node)) ∧
    ∀ place node place' node', r.condition.nodeAt? place = some node →
      r.condition.nodeAt? place' = some node' →
      node.reportPath (r.condition.pathAt "condition" place) =
        node'.reportPath (r.condition.pathAt "condition" place') → place = place' := by
  have hcheck : v.check r = v.checkCondition "condition" r.condition := by
    unfold check
    rw [if_neg (Text.not_isBlank_iff.mpr hname), if_neg (Nat.not_lt.mpr hdepth)]
  have hblames : ∀ f, v.check r = .error f → v.Blames "condition" r.condition f := by
    intro f hf
    exact blames_of_checkCondition (hcheck.symm.trans hf)
  refine ⟨hblames, ?_, ?_⟩
  · intro place node hnode
    constructor
    · rintro ⟨message, hf⟩
      obtain ⟨place', node', message', hfirst, heq⟩ := hblames _ hf
      have hplace : place = place' :=
        Condition.reportPath_injective hnode hfirst.found (RuleFault.invalid.inj heq).1
      subst hplace
      rw [hfirst.found] at hnode
      cases hnode
      exact hfirst
    · intro hfirst
      cases hresult : v.check r with
      | ok u =>
        have hall := checkCondition_eq_ok_iff.mp (hcheck.symm.trans hresult)
        exact absurd (hall place node hfirst.found) hfirst.fault
      | error f =>
        obtain ⟨place', node', message, hfirst', rfl⟩ := hblames f hresult
        obtain rfl := hfirst.place_eq hfirst'
        have hsame := hfirst'.found
        rw [hfirst.found] at hsame
        cases hsame
        exact ⟨message, rfl⟩
  · intro place node place' node' hnode hnode' hsame
    exact Condition.reportPath_injective hnode hnode' hsame

/-- A rule with two nodes that are not well formed: a group without children, and an empty condition
behind it. -/
def twiceFaulty : Rule :=
  let leaf := Condition.comparison ⟨"status", .equal, .string "up"⟩
  .ofCondition "twice faulty" (.allOf [leaf, .anyOf [leaf, .allOf []], .empty])

/-- Of the two nodes the group comes first. -/
theorem reports_first_fault_nested :
    (∃ ch ∈ twiceFaulty.name.toList, Text.isBlankChar ch = false) ∧
    twiceFaulty.condition.depth ≤ 64 ∧ Validator.check {} twiceFaulty =
      .error (.invalid "condition.and[1].or[1].and" "逻辑组至少需要一个子条件") ∧
    Validator.FirstFault {} twiceFaulty.condition [1, 1] (.allOf []) := by
  have hname : ∃ ch ∈ twiceFaulty.name.toList, Text.isBlankChar ch = false :=
    ⟨'t', by decide, by decide⟩
  have hdepth : twiceFaulty.condition.depth ≤ 64 := by decide
  have hcheck : Validator.check {} twiceFaulty =
      .error (.invalid "condition.and[1].or[1].and" "逻辑组至少需要一个子条件") := by decide
  obtain ⟨-, hiff, -⟩ := reports_first_fault {} twiceFaulty hname hdepth
  exact ⟨hname, hdepth, hcheck, (hiff [1, 1] (.allOf []) rfl).mp ⟨_, hcheck⟩⟩

end Validator

end AlertRules
