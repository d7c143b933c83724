import AlertRules.Proofs.Engine

/-!
# Rules take turns

Rules are evaluated in ascending order of priority, and rules of one priority in the order in which
they are given. `Rule.InTurn` says which order that is without a word on sorting: the rules with
their places, ascending by priority and then by place. There is one such order only
(`Rule.InTurn.unique`).

The rules of one priority are a level. Sorting keeps every level as it is, and rules in ascending
order are determined by their levels (`Rule.eq_of_levels`). So whatever keeps the levels keeps what
the engine answers, and a rule put among others takes its turn behind those of lower priority and
those of its own that come before it (`Rule.sortByPriority_among`).

> `Engine.evaluate_by_turns`: the matches are those of the rules one by one, in turn; a rule more
> adds its own match at its place and nothing else; and rules that are rearranged but keep their
> levels are evaluated alike.
-/

namespace AlertRules

open Json

namespace Rule

/-! ## Orders of rules -/

/-- That some rules are others in another order in which those of one priority keep theirs. Each
rule comes with the place it had. -/
structure Rearranged (rules : List Rule) (placed : List (Rule × Nat)) : Prop where
  perm : placed.Perm rules.zipIdx
  keeps : placed.Pairwise fun s t => s.1.priority = t.1.priority → s.2 < t.2

/-- That some rules stand in ascending order of priority, and those of one priority in the order of
the places they had. Each rule comes with its place. -/
structure InTurn (rules : List Rule) (turns : List (Rule × Nat)) : Prop where
  perm : turns.Perm rules.zipIdx
  ascending : turns.Pairwise fun s t =>
    s.1.priority < t.1.priority ∨ s.1.priority = t.1.priority ∧ s.2 < t.2

/-- Of the rules before and behind a place, those whose turn is before that of a rule of some
priority at the place. -/
def earlier (p : UInt32) (front back : List Rule) : List Rule :=
  front.filter (·.priority ≤ p) ++ back.filter (·.priority < p)

/-- Of the rules before and behind a place, those whose turn is after that of a rule of some
priority at the place. -/
def later (p : UInt32) (front back : List Rule) : List Rule :=
  front.filter (p < ·.priority) ++ back.filter (p ≤ ·.priority)

/-! ## Levels -/

/-- The rules of one priority. -/
def level (p : UInt32) (rules : List Rule) : List Rule := rules.filter (·.priority = p)

/-- That rules ascend by their priorities. -/
def Ascending (rules : List Rule) : Prop := rules.Pairwise fun a b => a.priority ≤ b.priority

variable {rules others : List Rule} {p : UInt32}

theorem mem_level {r : Rule} : r ∈ level p rules ↔ r ∈ rules ∧ r.priority = p := by
  rw [level, List.mem_filter, decide_eq_true_iff]

theorem level_append (as bs : List Rule) : level p (as ++ bs) = level p as ++ level p bs :=
  List.filter_append ..

theorem level_cons_self (r : Rule) (rest : List Rule) :
    level r.priority (r :: rest) = r :: level r.priority rest :=
  List.filter_cons_of_pos (decide_eq_true rfl)

theorem level_cons_ne {r : Rule} (h : r.priority ≠ p) (rest : List Rule) :
    level p (r :: rest) = level p rest :=
  List.filter_cons_of_neg (by rw [decide_eq_true_iff]; exact h)

/-- Leaving rules out by their priorities leaves out levels. -/
theorem level_filter (q : UInt32 → Bool) (rules : List Rule) :
    level p (rules.filter fun r => q r.priority) = if q p then level p rules else [] := by
  rw [level, List.filter_filter]
  split
  next hq =>
    refine List.filter_congr fun r _ => ?_
    by_cases hr : r.priority = p
    · rw [hr, hq, Bool.and_true]
    · rw [decide_eq_false hr, Bool.false_and]
  next hq =>
    refine List.filter_eq_nil_iff.mpr fun r _ => ?_
    by_cases hr : r.priority = p
    · rw [hr, Bool.and_eq_true]
      exact fun h => hq h.2
    · rw [decide_eq_false hr, Bool.false_and]
      exact Bool.false_ne_true

theorem ascending_sortByPriority (rules : List Rule) : Ascending (sortByPriority rules) :=
  (sorted_sortByPriority rules).imp of_decide_eq_true

/-- Sorting keeps every level as it is. -/
theorem level_sortByPriority (rules : List Rule) :
    level p (sortByPriority rules) = level p rules := by
  rw [level, filter_sortByPriority]
  refine List.mergeSort_of_pairwise (List.pairwise_of_forall_mem_list fun a ha b hb => ?_)
  have ha : a.priority = p := (mem_level.mp ha).2
  have hb : b.priority = p := (mem_level.mp hb).2
  exact decide_eq_true (UInt32.le_of_eq (ha.trans hb.symm))

/-- **Rules in ascending order are determined by their levels.** -/
theorem eq_of_levels (hrules : Ascending rules) (hothers : Ascending others)
    (h : ∀ p, level p rules = level p others) : rules = others := by
  induction rules generalizing others with
  | nil =>
    cases others with
    | nil => rfl
    | cons b bs => exact absurd (h b.priority) (by rw [level_cons_self]; exact nofun)
  | cons a as ih =>
    cases others with
    | nil => exact absurd (h a.priority) (by rw [level_cons_self]; exact nofun)
    | cons b bs =>
      obtain ⟨ha, has⟩ := List.pairwise_cons.mp hrules
      obtain ⟨hb, hbs⟩ := List.pairwise_cons.mp hothers
      -- Each head is among the others, so neither has the lower priority.
      have hmem_a : a ∈ b :: bs := by
        have hlevel : a ∈ level a.priority (a :: as) := mem_level.mpr ⟨List.mem_cons_self .., rfl⟩
        rw [h] at hlevel
        exact (mem_level.mp hlevel).1
      have hmem_b : b ∈ a :: as := by
        have hlevel : b ∈ level b.priority (b :: bs) := mem_level.mpr ⟨List.mem_cons_self .., rfl⟩
        rw [← h] at hlevel
        exact (mem_level.mp hlevel).1
      have hle : b.priority ≤ a.priority := by
        rcases List.mem_cons.mp hmem_a with rfl | hmem
        · exact UInt32.le_refl _
        · exact hb a hmem
      have hge : a.priority ≤ b.priority := by
        rcases List.mem_cons.mp hmem_b with rfl | hmem
        · exact UInt32.le_refl _
        · exact ha b hmem
      have hpriority : b.priority = a.priority := UInt32.le_antisymm hle hge
      have hheads := h a.priority
      rw [level_cons_self, ← hpriority, level_cons_self] at hheads
      obtain ⟨rfl, htails⟩ := List.cons.inj hheads
      congr 1
      refine ih has hbs fun p => ?_
      by_cases hp : a.priority = p
      · rw [← hp]
        exact htails
      · have hlevels := h p
        rwa [level_cons_ne hp, level_cons_ne hp] at hlevels

/-- Rules with the same levels are sorted alike. -/
theorem sortByPriority_congr (h : ∀ p, level p rules = level p others) :
    sortByPriority rules = sortByPriority others := by
  refine eq_of_levels (ascending_sortByPriority _) (ascending_sortByPriority _) fun p => ?_
  rw [level_sortByPriority, level_sortByPriority, h p]

/-! ## Places -/

theorem pairwise_zipIdx (rules : List Rule) (n : Nat) :
    (rules.zipIdx n).Pairwise fun s t => s.2 < t.2 := by
  induction rules generalizing n with
  | nil => exact .nil
  | cons r rest ih =>
    rw [List.zipIdx_cons, List.pairwise_cons]
    refine ⟨fun t ht => ?_, ih (n + 1)⟩
    have hplace : n + 1 ≤ t.2 := (List.mem_zipIdx ht).1
    exact hplace

/-- Rearranging keeps every level as it is. -/
theorem Rearranged.level_eq {placed : List (Rule × Nat)} (h : Rearranged rules placed) :
    level p (placed.map Prod.fst) = level p rules := by
  have hlevel : placed.filter (·.1.priority = p) = rules.zipIdx.filter (·.1.priority = p) := by
    -- Within a level both ascend by the places.
    have hplaced : (placed.filter (·.1.priority = p)).Pairwise fun s t => s.2 < t.2 := by
      refine (h.keeps.filter _).imp_of_mem fun hs ht hkeeps => hkeeps ?_
      have hs := of_decide_eq_true (List.mem_filter.mp hs).2
      have ht := of_decide_eq_true (List.mem_filter.mp ht).2
      exact hs.trans ht.symm
    have hgiven : (rules.zipIdx.filter (·.1.priority = p)).Pairwise fun s t => s.2 < t.2 :=
      (pairwise_zipIdx rules 0).filter _
    exact List.Perm.eq_of_pairwise (fun s t _ _ hst hts => absurd hst (Nat.lt_asymm hts))
      hplaced hgiven (h.perm.filter _)
  calc level p (placed.map Prod.fst)
      = (placed.filter (·.1.priority = p)).map Prod.fst := List.filter_map
    _ = (rules.zipIdx.filter (·.1.priority = p)).map Prod.fst := by rw [hlevel]
    _ = level p (rules.zipIdx.map Prod.fst) := by
      rw [level, List.filter_map]
      rfl
    _ = level p rules := by rw [List.zipIdx_map_fst]

namespace InTurn

variable {turns turns' : List (Rule × Nat)}

theorem rearranged (h : InTurn rules turns) : Rearranged rules turns := by
  refine ⟨h.perm, h.ascending.imp fun hst heq => ?_⟩
  rcases hst with hlt | hplace
  · exact absurd (heq ▸ hlt) (UInt32.lt_irrefl _)
  · exact hplace.2

/-- There is one order only in which rules take turns. -/
theorem unique (h : InTurn rules turns) (h' : InTurn rules turns') : turns = turns' := by
  refine List.Perm.eq_of_pairwise ?_ h.ascending h'.ascending (h.perm.trans h'.perm.symm)
  intro s t _ _ hst hts
  simp only [UInt32.lt_iff_toNat_lt, ← UInt32.toNat_inj] at hst hts
  omega

/-- **Rules in turn are the rules sorted**: sorting keeps the order of the places. -/
theorem sortByPriority_eq (h : InTurn rules turns) : sortByPriority rules = turns.map Prod.fst := by
  refine eq_of_levels (ascending_sortByPriority rules) ?_ fun p => ?_
  · refine List.pairwise_map.mpr (h.ascending.imp fun hst => ?_)
    rcases hst with hlt | heq
    · exact UInt32.le_of_lt hlt
    · exact UInt32.le_of_eq heq.1
  · rw [level_sortByPriority, h.rearranged.level_eq]

end InTurn

/-- Rules can always take turns. -/
theorem exists_inTurn (rules : List Rule) : ∃ turns, InTurn rules turns := by
  refine ⟨rules.zipIdx.mergeSort (List.zipIdxLE fun a b => a.priority ≤ b.priority),
    List.mergeSort_perm _ _, ?_⟩
  have hsorted := List.pairwise_mergeSort (List.zipIdxLE_trans priority_le_trans)
    (List.zipIdxLE_total priority_le_total) rules.zipIdx
  -- No place occurs twice, so of one priority the places ascend strictly.
  have hplaces :
      (rules.zipIdx.mergeSort (List.zipIdxLE fun a b => a.priority ≤ b.priority)).Pairwise
        fun s t => s.2 ≠ t.2 :=
    ((List.mergeSort_perm _ _).pairwise_iff fun hst => hst.symm).mpr
      ((pairwise_zipIdx rules 0).imp Nat.ne_of_lt)
  refine (hsorted.and hplaces).imp fun {s t} hst => ?_
  obtain ⟨hle, hne⟩ := hst
  simp only [List.zipIdxLE, decide_eq_true_eq, UInt32.le_iff_toNat_le] at hle
  simp only [UInt32.lt_iff_toNat_lt, ← UInt32.toNat_inj]
  split at hle
  next hpriority =>
    split at hle
    next hback =>
      have hplace := of_decide_eq_true hle
      omega
    next hback => omega
  next => exact absurd hle Bool.false_ne_true

/-! ## A rule among others -/

/-- Rules of one priority that stand together take their turns together, between the earlier ones
and the later ones. -/
theorem sortByPriority_among (front among back : List Rule) (h : ∀ r ∈ among, r.priority = p) :
    sortByPriority (front ++ among ++ back) =
      sortByPriority (earlier p front back) ++ among ++ sortByPriority (later p front back) := by
  have hearlier : ∀ r ∈ sortByPriority (earlier p front back), r.priority ≤ p := by
    intro r hr
    rcases List.mem_append.mp (List.mem_mergeSort.mp hr) with hr | hr
    · exact of_decide_eq_true (List.mem_filter.mp hr).2
    · exact UInt32.le_of_lt (of_decide_eq_true (List.mem_filter.mp hr).2)
  have hlater : ∀ r ∈ sortByPriority (later p front back), p ≤ r.priority := by
    intro r hr
    rcases List.mem_append.mp (List.mem_mergeSort.mp hr) with hr | hr
    · exact UInt32.le_of_lt (of_decide_eq_true (List.mem_filter.mp hr).2)
    · exact of_decide_eq_true (List.mem_filter.mp hr).2
  refine eq_of_levels (ascending_sortByPriority _) ?_ fun q => ?_
  · refine List.pairwise_append.mpr ⟨List.pairwise_append.mpr ⟨ascending_sortByPriority _, ?_, ?_⟩,
      ascending_sortByPriority _, ?_⟩
    · exact List.pairwise_of_forall_mem_list fun a ha b hb =>
        UInt32.le_of_eq ((h a ha).trans (h b hb).symm)
    · intro a ha b hb
      rw [h b hb]
      exact hearlier a ha
    · intro a ha b hb
      rcases List.mem_append.mp ha with ha | ha
      · exact UInt32.le_trans (hearlier a ha) (hlater b hb)
      · rw [h a ha]
        exact hlater b hb
  · have hfront := level_filter (p := q) (fun x => decide (x ≤ p)) front
    have hfront' := level_filter (p := q) (fun x => decide (p < x)) front
    have hback := level_filter (p := q) (fun x => decide (x < p)) back
    have hback' := level_filter (p := q) (fun x => decide (p ≤ x)) back
    simp only [decide_eq_true_eq] at hfront hfront' hback hback'
    rw [level_sortByPriority, level_append, level_append, level_append, level_append,
      level_sortByPriority, level_sortByPriority, earlier, later, level_append,
      level_append, hfront, hfront', hback, hback']
    -- A level stands before the rules, around them, or behind them.
    by_cases hq : q = p
    · subst hq
      simp
    · have hnone : level q among = [] :=
        List.filter_eq_nil_iff.mpr fun r hr => by simp [h r hr, Ne.symm hq]
      rcases Nat.lt_or_gt_of_ne (UInt32.toNat_inj.not.mpr hq) with hlt | hgt
      · have hlt : q < p := UInt32.lt_iff_toNat_lt.mpr hlt
        rw [hnone, if_pos (UInt32.le_of_lt hlt), if_pos hlt, if_neg (UInt32.lt_asymm hlt),
          if_neg (UInt32.not_le.mpr hlt)]
        simp
      · have hgt : p < q := UInt32.lt_iff_toNat_lt.mpr hgt
        rw [hnone, if_neg (UInt32.not_le.mpr hgt), if_neg (UInt32.lt_asymm hgt), if_pos hgt,
          if_pos (UInt32.le_of_lt hgt)]
        simp

end Rule

/-! ## What the engine answers -/

namespace Engine

variable (e : Engine) (event : Value)

/-- The matches are those of the sorted rules one by one. -/
theorem evaluate_eq_filterMap (rules : List Rule) : e.evaluate event rules =
    (Rule.sortByPriority rules).filterMap (e.evaluateSingle event) := by
  rw [evaluate_eq, enabledOf, ← Rule.filter_sortByPriority, List.filterMap_filter]
  rfl

theorem evaluateDetailed_eq_map (rules : List Rule) : e.evaluateDetailed event rules =
    ((Rule.sortByPriority rules).filter (·.enabled)).map fun r =>
      ⟨r.id, r.name, r.priority, e.evaluateRule event r⟩ := by
  rw [evaluateDetailed, Rule.filter_sortByPriority]

/-- The matches of rules around some others of one priority stand around the matches of these. -/
theorem evaluate_among {p : UInt32} (front among back : List Rule)
    (h : ∀ r ∈ among, r.priority = p) : e.evaluate event (front ++ among ++ back) =
      e.evaluate event (Rule.earlier p front back) ++ among.filterMap (e.evaluateSingle event) ++
        e.evaluate event (Rule.later p front back) := by
  rw [evaluate_eq_filterMap, Rule.sortByPriority_among front among back h, List.filterMap_append,
    List.filterMap_append, ← evaluate_eq_filterMap, ← evaluate_eq_filterMap]

/-- **Rules are evaluated one by one, in turn.** The matches are those of each rule alone, and every
enabled rule has its evaluation, in ascending order of priority and of place. A rule put among
others adds its own match between those of the earlier and those of the later ones. Rules that are
rearranged but keep their order within each priority are evaluated alike. -/
theorem evaluate_by_turns :
    (∀ rules, ∃ turns, Rule.InTurn rules turns ∧
      e.evaluate event rules = turns.filterMap (fun t => e.evaluateSingle event t.1) ∧
      e.evaluateDetailed event rules = (turns.filter (·.1.enabled)).map fun t =>
        ⟨t.1.id, t.1.name, t.1.priority, e.evaluateRule event t.1⟩) ∧
    (∀ front r back,
      e.evaluate event (front ++ back) = e.evaluate event (Rule.earlier r.priority front back) ++
        e.evaluate event (Rule.later r.priority front back) ∧
      e.evaluate event (front ++ r :: back) =
        e.evaluate event (Rule.earlier r.priority front back) ++
        (e.evaluateSingle event r).toList ++ e.evaluate event (Rule.later r.priority front back)) ∧
    (∀ rules placed, Rule.Rearranged rules placed →
      e.evaluate event (placed.map Prod.fst) = e.evaluate event rules ∧
      e.evaluateDetailed event (placed.map Prod.fst) = e.evaluateDetailed event rules) := by
  refine ⟨fun rules => ?_, fun front r back => ⟨?_, ?_⟩, fun rules placed h => ?_⟩
  · obtain ⟨turns, h⟩ := Rule.exists_inTurn rules
    refine ⟨turns, h, ?_, ?_⟩
    · rw [evaluate_eq_filterMap, h.sortByPriority_eq, List.filterMap_map]
      rfl
    · rw [evaluateDetailed_eq_map, h.sortByPriority_eq, List.filter_map, List.map_map]
      rfl
  · have hnone := e.evaluate_among event (p := r.priority) front [] back
      fun _ hq => nomatch hq
    rwa [List.append_nil, List.filterMap_nil, List.append_nil] at hnone
  · have hone := e.evaluate_among event front [r] back
      fun q hq => congrArg Rule.priority (List.mem_singleton.mp hq)
    rw [List.append_assoc, List.singleton_append] at hone
    rw [hone]
    cases hr : e.evaluateSingle event r with
    | none => rw [List.filterMap_cons_none hr]; rfl
    | some m => rw [List.filterMap_cons_some hr]; rfl
  · have hsort : Rule.sortByPriority (placed.map Prod.fst) = Rule.sortByPriority rules :=
      Rule.sortByPriority_congr fun p => h.level_eq
    rw [evaluate_eq_filterMap, evaluate_eq_filterMap, evaluateDetailed_eq_map,
      evaluateDetailed_eq_map, hsort]
    exact ⟨rfl, rfl⟩

/-- A rule that holds of every event. -/
def unconditional (name : String) (priority : UInt32) (id : Option Uuid) : Rule :=
  { Rule.ofCondition name (.allOf []) with id := id, priority := priority }

/-- A rule without identifier, which is skipped, may move before two rules of one later priority. -/
theorem evaluate_by_turns_tied :
    let early := unconditional "early" 10 none
    let left := unconditional "left" 20 (some .nil)
    let right := unconditional "right" 20 (some .nil)
    Rule.Rearranged [left, early, right] [(early, 1), (left, 0), (right, 2)] ∧
      ({} : Engine).evaluate .null [early, left, right] =
        ({} : Engine).evaluate .null [left, early, right] ∧
      ({} : Engine).evaluateDetailed .null [early, left, right] =
        ({} : Engine).evaluateDetailed .null [left, early, right] := by
  intro early left right
  have hplaced : Rule.Rearranged [left, early, right] [(early, 1), (left, 0), (right, 2)] :=
    ⟨.swap .., by decide⟩
  exact ⟨hplaced, (evaluate_by_turns {} .null).2.2 _ _ hplaced⟩

end Engine

end AlertRules
