import Mathlib.Data.List.Basic
import AlertRules.Engine
import AlertRules.Proofs.Repository.Contract

/-!
# One rule more

What an engine says of some rules is said of each of them by itself, in the order of their
priorities: `Engine.evaluate` is a `filterMap` over the sorted rules. Sorting is stable, so it
commutes with leaving rules out (`Rule.filter_sortByPriority`), and the matches of all rules but one
are the matches without that one, in the same order.

> `Engine.evaluate_insert`: of the matches after a rule was put among others, those under its
> identifier are what evaluating it alone gives, and the others are the matches before.
-/

namespace AlertRules

open Json

namespace Rule

/-! ## Sorting by priority -/

theorem priority_le_trans (a b c : Rule) (hab : decide (a.priority ≤ b.priority) = true)
    (hbc : decide (b.priority ≤ c.priority) = true) : decide (a.priority ≤ c.priority) = true :=
  decide_eq_true (UInt32.le_trans (of_decide_eq_true hab) (of_decide_eq_true hbc))

theorem priority_le_total (a b : Rule) :
    (decide (a.priority ≤ b.priority) || decide (b.priority ≤ a.priority)) = true := by
  rcases UInt32.le_total a.priority b.priority with h | h
  · rw [decide_eq_true h, Bool.true_or]
  · rw [decide_eq_true h, Bool.or_true]

theorem sorted_sortByPriority (rules : List Rule) :
    (sortByPriority rules).Pairwise fun a b => decide (a.priority ≤ b.priority) = true :=
  List.pairwise_mergeSort priority_le_trans priority_le_total rules

/-- Sorting what is sorted changes nothing. -/
theorem sortByPriority_sortByPriority (rules : List Rule) :
    sortByPriority (sortByPriority rules) = sortByPriority rules :=
  List.mergeSort_of_pairwise (sorted_sortByPriority rules)

/-- A list is cut in one way only into members that come before a rule and members that do not. -/
theorem takeWhile_cut {r : Rule} {front back : List Rule}
    (hfront : ∀ b ∈ front, (!decide (r.priority ≤ b.priority)) = true)
    (hback : ∀ b ∈ back, decide (r.priority ≤ b.priority) = true) :
    (front ++ back).takeWhile (fun b => !decide (r.priority ≤ b.priority)) = front := by
  rw [List.takeWhile_append_of_pos hfront]
  cases back with
  | nil => rw [List.takeWhile_nil, List.append_nil]
  | cons b rest =>
    rw [List.takeWhile_cons_of_neg, List.append_nil]
    rw [hback b (List.mem_cons_self ..)]
    exact Bool.false_ne_true

/-- **Leaving rules out commutes with sorting**, since rules of one priority keep their order. -/
theorem filter_sortByPriority (p : Rule → Bool) (rules : List Rule) :
    (sortByPriority rules).filter p = sortByPriority (rules.filter p) := by
  induction rules with
  | nil => simp [sortByPriority]
  | cons r rest ih =>
    -- Sorting puts the first rule behind those that come before it, among the others sorted.
    obtain ⟨front, back, hsort, hrest, hfront⟩ :=
      List.mergeSort_cons priority_le_trans priority_le_total r rest
    have hsorted := sorted_sortByPriority (r :: rest)
    have hback : ∀ b ∈ back, decide (r.priority ≤ b.priority) = true := by
      rw [show sortByPriority (r :: rest) = front ++ r :: back from hsort] at hsorted
      exact (List.pairwise_cons.mp (List.pairwise_append.mp hsorted).2.1).1
    rw [show sortByPriority (r :: rest) = front ++ r :: back from hsort]
    rw [show sortByPriority rest = front ++ back from hrest] at ih
    by_cases hp : p r = true
    · obtain ⟨front', back', hsort', hrest', hfront'⟩ :=
        List.mergeSort_cons priority_le_trans priority_le_total r (rest.filter p)
      have hsorted' := sorted_sortByPriority (r :: rest.filter p)
      have hback' : ∀ b ∈ back', decide (r.priority ≤ b.priority) = true := by
        rw [show sortByPriority (r :: rest.filter p) = front' ++ r :: back' from hsort'] at hsorted'
        exact (List.pairwise_cons.mp (List.pairwise_append.mp hsorted').2.1).1
      -- The others without the rules left out are cut at the same place in both.
      have hsame : front' ++ back' = front.filter p ++ back.filter p := by
        rw [← List.filter_append, ih]
        exact hrest'.symm
      have hcut : front' = front.filter p := by
        rw [← takeWhile_cut hfront' hback', hsame]
        exact takeWhile_cut (fun b hb => hfront b (List.mem_filter.mp hb).1)
          fun b hb => hback b (List.mem_filter.mp hb).1
      subst hcut
      rw [List.filter_append, List.filter_cons_of_pos hp, List.filter_cons_of_pos hp,
        ← List.append_cancel_left hsame]
      exact hsort'.symm
    · rw [List.filter_append, List.filter_cons_of_neg hp, List.filter_cons_of_neg hp,
        ← List.filter_append, ih]

end Rule

namespace Engine

variable (e : Engine) (event : Value)

/-! ## Matches -/

/-- The match of a rule, where there is one. -/
def matchOf (r : Rule) : Option RuleMatch := (e.evaluateRule event r).match?

theorem evaluate_eq (rules : List Rule) : e.evaluate event rules =
    (Rule.sortByPriority (enabledOf rules)).filterMap (e.matchOf event) := by
  rw [evaluate, evaluateDetailed, List.filterMap_map]
  rfl

/-- Rules that are enabled and sorted are evaluated one by one. -/
theorem evaluate_sorted (rules : List Rule) :
    e.evaluate event (Rule.sortByPriority (enabledOf rules)) =
      (Rule.sortByPriority (enabledOf rules)).filterMap (e.matchOf event) := by
  have henabled : enabledOf (Rule.sortByPriority (enabledOf rules)) =
      Rule.sortByPriority (enabledOf rules) := by
    refine List.filter_eq_self.mpr fun r hr => ?_
    exact (List.mem_filter.mp (List.mem_mergeSort.mp hr)).2
  rw [evaluate_eq, henabled, Rule.sortByPriority_sortByPriority]

/-- A match is under the identifier of its rule. -/
theorem id_of_matchOf {r : Rule} {m : RuleMatch} (h : e.matchOf event r = some m) :
    r.id = some m.ruleId := by
  unfold matchOf evaluateRule at h
  split at h
  next => exact nomatch h
  next =>
    split at h
    next =>
      split at h
      next id hid =>
        cases h
        exact hid
      next => exact nomatch h
    next => exact nomatch h

/-- Under another identifier, and at other instants, a rule has the same match under that
identifier. -/
theorem matchOf_stored {r : Rule} {id id' : Uuid} (hid : r.id = some id)
    (createdAt updatedAt : Option Timestamp) :
    e.matchOf event { r with id := some id', createdAt := createdAt, updatedAt := updatedAt } =
      (e.matchOf event r).map fun m => { m with ruleId := id' } := by
  unfold matchOf evaluateRule
  by_cases hdeep : e.maxDepth < r.condition.depth
  · rw [if_pos hdeep, if_pos hdeep]
    rfl
  · rw [if_neg hdeep, if_neg hdeep, hid]
    by_cases hholds : r.condition.holds event = true
    · rw [if_pos hholds, if_pos hholds]
      rfl
    · rw [if_neg hholds, if_neg hholds]
      rfl

theorem filter_matches (id : Uuid) (rules : List Rule) :
    (rules.filterMap (e.matchOf event)).filter (fun m => m.ruleId = id) =
      (rules.filter fun r => r.id = some id).filterMap (e.matchOf event) := by
  rw [List.filter_filterMap, List.filterMap_filter]
  apply List.filterMap_congr
  intro r _
  cases hm : e.matchOf event r with
  | none => simp
  | some m => simp [id_of_matchOf e event hm, Option.filter]

theorem filter_matches_ne (id : Uuid) (rules : List Rule) :
    (rules.filterMap (e.matchOf event)).filter (fun m => m.ruleId ≠ id) =
      (rules.filter fun r => r.id ≠ some id).filterMap (e.matchOf event) := by
  rw [List.filter_filterMap, List.filterMap_filter]
  apply List.filterMap_congr
  intro r _
  cases hm : e.matchOf event r with
  | none => simp
  | some m => simp [id_of_matchOf e event hm, Option.filter]

theorem filter_id_eq {front back : List Rule} {r : Rule} {id : Uuid} (hid : r.id = some id)
    (hothers : ∀ q ∈ front ++ back, q.id ≠ some id) :
    (front ++ r :: back).filter (fun q => q.id = some id) = [r] := by
  have hnone : ∀ rules : List Rule, (∀ q ∈ rules, q ∈ front ++ back) →
      rules.filter (fun q => decide (q.id = some id)) = [] := fun rules hsub =>
    List.filter_eq_nil_iff.mpr fun q hq => by simp [hothers q (hsub q hq)]
  have hfront := hnone front fun q => List.mem_append_left _
  have hback := hnone back fun q => List.mem_append_right _
  rw [List.filter_append, hfront, List.filter_cons_of_pos (by simp [hid]), hback, List.nil_append]

theorem filter_id_ne {front back : List Rule} {r : Rule} {id : Uuid} (hid : r.id = some id)
    (hothers : ∀ q ∈ front ++ back, q.id ≠ some id) :
    (front ++ r :: back).filter (fun q => q.id ≠ some id) = front ++ back := by
  rw [List.filter_append, List.filter_cons_of_neg (by simp [hid]), ← List.filter_append]
  exact List.filter_eq_self.mpr fun q hq => decide_eq_true (hothers q hq)

/-- **One rule more.** Of the matches after an enabled rule was put among others, those under its
identifier are what evaluating it alone gives, and the others are the matches before, in the same
order. -/
theorem evaluate_insert {front back : List Rule} {r : Rule} {id : Uuid} (hid : r.id = some id)
    (henabled : r.enabled = true) (hkept : WellKept (front ++ r :: back)) :
    (e.evaluate event (Rule.sortByPriority (enabledOf (front ++ r :: back)))).filter
        (fun m => m.ruleId = id) = (e.matchOf event r).toList ∧
      (e.evaluate event (Rule.sortByPriority (enabledOf (front ++ r :: back)))).filter
        (fun m => m.ruleId ≠ id) =
          e.evaluate event (Rule.sortByPriority (enabledOf (front ++ back))) := by
  have hsplit : enabledOf (front ++ r :: back) = enabledOf front ++ r :: enabledOf back := by
    rw [enabledOf, List.filter_append, List.filter_cons_of_pos henabled]
    rfl
  have hjoin : enabledOf (front ++ back) = enabledOf front ++ enabledOf back :=
    List.filter_append ..
  -- No other rule has the identifier.
  have hothers : ∀ q ∈ enabledOf front ++ enabledOf back, q.id ≠ some id := by
    have hpair := List.pairwise_append.mp hkept.distinct
    intro q hq heq
    rcases List.mem_append.mp hq with hq | hq
    · exact hpair.2.2 q (List.mem_filter.mp hq).1 r (List.mem_cons_self ..) (heq.trans hid.symm)
    · exact (List.pairwise_cons.mp hpair.2.1).1 q (List.mem_filter.mp hq).1 (hid.trans heq.symm)
  rw [evaluate_sorted, evaluate_sorted, filter_matches, filter_matches_ne,
    Rule.filter_sortByPriority, Rule.filter_sortByPriority, hsplit, hjoin, filter_id_eq hid hothers,
    filter_id_ne hid hothers]
  refine ⟨?_, rfl⟩
  cases hm : e.matchOf event r with
  | none => simp [Rule.sortByPriority, hm]
  | some m => simp [Rule.sortByPriority, hm]

end Engine

end AlertRules
