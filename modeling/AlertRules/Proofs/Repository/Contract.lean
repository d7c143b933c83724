import AlertRules.Memory

/-!
# What stores promise

A `RuleStore` is any keeper of rules that answers the calls of `StoreCall` as it should: every rule
has an identifier, no two have the same, and a call that does not fail has its `StoreCall.Effect`.
What the state of a store is beyond its rules, in which order it keeps them and which instants it
gives them is its own affair. The order of `rules` is that in which enabled rules are listed; a
write may change it.

A call may fail, and then leaves the rules alone. Insertions have to be allowed to: there are only
finitely many identifiers. `RuleStore.Available` says that reads never fail and leave the store as
it is.

> `Memory.store`: the store in memory keeps these promises, as long as it refuses to number more
> rules than there are identifiers.
-/

namespace AlertRules

/-- That every rule has an identifier, and no two have the same. -/
structure WellKept (rules : List Rule) : Prop where
  numbered : ∀ r ∈ rules, r.id.isSome
  distinct : rules.Pairwise fun a b => a.id ≠ b.id

/-- The rule with an identifier. -/
def ruleWith? (rules : List Rule) (id : Uuid) : Option Rule := rules.find? fun r => r.id = some id

/-- The enabled rules. -/
def enabledOf (rules : List Rule) : List Rule := rules.filter (·.enabled)

theorem mem_of_ruleWith? {rules : List Rule} {id : Uuid} {r : Rule}
    (h : ruleWith? rules id = some r) : r ∈ rules ∧ r.id = some id := by
  unfold ruleWith? at h
  have hid := List.find?_some h
  exact ⟨List.mem_of_find?_eq_some h, of_decide_eq_true hid⟩

namespace WellKept

variable {rules : List Rule}

theorem eq_of_id_eq (h : WellKept rules) {a b : Rule} (ha : a ∈ rules) (hb : b ∈ rules)
    (hid : a.id = b.id) : a = b := by
  apply Classical.byContradiction
  intro hne
  have hpair := List.pairwise_iff_getElem.mp h.distinct
  obtain ⟨i, hi, rfl⟩ := List.getElem_of_mem ha
  obtain ⟨j, hj, rfl⟩ := List.getElem_of_mem hb
  rcases Nat.lt_trichotomy i j with hlt | rfl | hlt
  · exact hpair i j hi hj hlt hid
  · exact hne rfl
  · exact hpair j i hj hi hlt hid.symm

theorem ruleWith?_eq_some_iff (h : WellKept rules) {id : Uuid} {r : Rule} :
    ruleWith? rules id = some r ↔ r ∈ rules ∧ r.id = some id := by
  constructor
  · exact mem_of_ruleWith?
  · rintro ⟨hmem, hid⟩
    cases hfind : ruleWith? rules id with
    | none =>
      have hnone := List.find?_eq_none.mp hfind r hmem
      exact absurd (decide_eq_true hid) hnone
    | some q =>
      obtain ⟨hq, hqid⟩ := mem_of_ruleWith? hfind
      rw [h.eq_of_id_eq hq hmem (hqid.trans hid.symm)]

theorem enabledOf (h : WellKept rules) : WellKept (enabledOf rules) :=
  ⟨fun r hr => h.numbered r (List.mem_filter.mp hr).1, h.distinct.filter _⟩

end WellKept

theorem ruleWith?_eq_none_iff {rules : List Rule} {id : Uuid} :
    ruleWith? rules id = none ↔ ∀ r ∈ rules, r.id ≠ some id := by
  simp [ruleWith?]

namespace StoreCall

/-- Whether a call only asks. -/
def isRead : StoreCall → Bool
  | fetchEnabled | fetchById _ | fetchByIds _ | ping => true
  | insert _ | update _ | remove _ => false

/-- What a call that does not fail answers, and what the rules are then. The order in which rules
are fetched by their identifiers is left open, and so is that of the rules after a write that
changed something. -/
def Effect (before : List Rule) : (c : StoreCall) → c.Answer → (after : List Rule) → Prop
  | fetchEnabled, found, after => found = enabledOf before ∧ after = before
  | fetchById id, found, after => found = ruleWith? before id ∧ after = before
  | fetchByIds ids, found, after =>
    (∀ r, r ∈ found ↔ r ∈ before ∧ ∃ id ∈ ids, r.id = some id) ∧ after = before
  | insert r, stored, after =>
    (∃ id createdAt updatedAt, ruleWith? before id = none ∧
      stored = { r with id := some id, createdAt, updatedAt }) ∧
    ∀ x, x ∈ after ↔ x = stored ∨ x ∈ before
  | update r, none, after => (∀ old ∈ before, old.id ≠ r.id) ∧ after = before
  | update r, some stored, after =>
    (∃ createdAt updatedAt, stored = { r with createdAt, updatedAt }) ∧
    (∃ old ∈ before, old.id = r.id) ∧
    ∀ x, x ∈ after ↔ x = stored ∨ (x ∈ before ∧ x.id ≠ r.id)
  | remove id, removed, after =>
    (removed = true ↔ ∃ old ∈ before, old.id = some id) ∧ (removed = false → after = before) ∧
    ∀ x, x ∈ after ↔ x ∈ before ∧ x.id ≠ some id
  | ping, _, after => after = before

/-- What a call answers, and what the rules are then: unchanged if it failed. -/
def Outcome (before : List Rule) (c : StoreCall) :
    Except RuleFault c.Answer → (after : List Rule) → Prop
  | .ok a, after => c.Effect before a after
  | .error _, after => after = before

/-- A call that only asks changes no rule. -/
theorem Outcome.of_read {before after : List Rule} {c : StoreCall}
    {x : Except RuleFault c.Answer} (h : Outcome before c x after) (hread : c.isRead) :
    after = before := by
  cases x with
  | error f => exact h
  | ok a =>
    cases c with
    | fetchEnabled => exact h.2
    | fetchById id => exact h.2
    | fetchByIds ids => exact h.2
    | ping => exact h
    | insert r => exact nomatch hread
    | update r => exact nomatch hread
    | remove id => exact nomatch hread

end StoreCall

/-- A keeper of rules whose states are of type `σ`. -/
structure RuleStore (σ : Type) where
  /-- The rules of a state. -/
  rules : σ → List Rule
  /-- What a call answers, and the state then. -/
  answer : (c : StoreCall) → σ → Except RuleFault c.Answer × σ
  wellKept : ∀ s, WellKept (rules s)
  lawful : ∀ (c : StoreCall) (s : σ), c.Outcome (rules s) (answer c s).1 (rules (answer c s).2)

/-- That reads never fail, and leave the store as it is. -/
def RuleStore.Available {σ : Type} (S : RuleStore σ) : Prop :=
  ∀ (c : StoreCall) (s : σ), c.isRead → ∃ a, S.answer c s = (.ok a, s)

namespace Memory

/-! ## The store in memory -/

/-- How many identifiers there are. -/
def identifiers : Nat := 0x100000000000000000000000000000000

/-- That the rules in memory have the numbers of insertions as identifiers, each its own, and that
there have been no more insertions than there are identifiers. -/
structure InOrder (m : Memory) : Prop where
  distinct : m.rules.Pairwise fun a b => a.id ≠ b.id
  numbered : ∀ r ∈ m.rules, ∃ n, n ≤ m.inserted ∧ r.id = some (Uuid.ofNat n)
  within : m.inserted < identifiers

theorem InOrder.wellKept {m : Memory} (h : m.InOrder) : WellKept m.rules := by
  refine ⟨fun r hr => ?_, h.distinct⟩
  obtain ⟨n, -, hid⟩ := h.numbered r hr
  rw [hid]
  rfl

theorem mem_replaceFirst {r x : Rule} : ∀ {rules : List Rule},
    rules.Pairwise (fun a b => a.id ≠ b.id) → (∃ old ∈ rules, old.id = r.id) →
      (x ∈ replaceFirst r rules ↔ x = r ∨ (x ∈ rules ∧ x.id ≠ r.id))
  | [], _, ⟨_, hmem, _⟩ => nomatch hmem
  | old :: rest, hpair, ⟨q, hq, hqid⟩ => by
    obtain ⟨hhead, htail⟩ := List.pairwise_cons.mp hpair
    unfold replaceFirst
    by_cases hold : old.id = r.id
    · rw [if_pos hold, List.mem_cons, List.mem_cons]
      -- No other rule has the identifier, so the rest stays as it is.
      have hrest : x ∈ rest → x.id ≠ r.id := fun hx heq => hhead x hx (hold.trans heq.symm)
      constructor
      · rintro (rfl | hx)
        · exact .inl rfl
        · exact .inr ⟨.inr hx, hrest hx⟩
      · rintro (rfl | ⟨rfl | hx, hne⟩)
        · exact .inl rfl
        · exact absurd hold hne
        · exact .inr hx
    · have hmem : q ∈ rest := by
        rcases List.mem_cons.mp hq with rfl | hq
        · exact absurd hqid hold
        · exact hq
      rw [if_neg hold, List.mem_cons, mem_replaceFirst htail ⟨q, hmem, hqid⟩, List.mem_cons]
      constructor
      · rintro (rfl | rfl | ⟨hx, hne⟩)
        · exact .inr ⟨.inl rfl, hold⟩
        · exact .inl rfl
        · exact .inr ⟨.inr hx, hne⟩
      · rintro (rfl | ⟨rfl | hx, hne⟩)
        · exact .inr (.inl rfl)
        · exact .inl rfl
        · exact .inr (.inr ⟨hx, hne⟩)

theorem ids_replaceFirst {r : Rule} : ∀ {rules : List Rule},
    (replaceFirst r rules).map (·.id) = rules.map (·.id)
  | [] => rfl
  | old :: rest => by
    unfold replaceFirst
    split
    next h => rw [List.map_cons, List.map_cons, h]
    next => rw [List.map_cons, List.map_cons, ids_replaceFirst]

/-- The identifiers decide whether rules are in order. -/
theorem InOrder.of_ids {m m' : Memory} (h : m.InOrder) (hinserted : m'.inserted = m.inserted)
    (hids : (m'.rules.map (·.id)).Sublist (m.rules.map (·.id))) : m'.InOrder := by
  have hdistinct : (m.rules.map (·.id)).Pairwise (· ≠ ·) := List.pairwise_map.mpr h.distinct
  refine ⟨List.pairwise_map.mp (hdistinct.sublist hids), fun r hr => ?_, ?_⟩
  · obtain ⟨q, hq, hqid⟩ := List.mem_map.mp (hids.subset (List.mem_map_of_mem hr))
    obtain ⟨n, hn, hid⟩ := h.numbered q hq
    exact ⟨n, hinserted ▸ hn, hqid ▸ hid⟩
  · rw [hinserted]
    exact h.within

/-- The number of the next rule is not yet an identifier. -/
theorem InOrder.fresh {m : Memory} (h : m.InOrder) (hmore : m.inserted + 1 < identifiers) :
    ∀ r ∈ m.rules, r.id ≠ some (Uuid.ofNat (m.inserted + 1)) := by
  intro r hr heq
  obtain ⟨n, hn, hid⟩ := h.numbered r hr
  rw [hid] at heq
  have hval : (Uuid.ofNat n).val = (Uuid.ofNat (m.inserted + 1)).val := by
    rw [Option.some.inj heq]
  -- Identifiers are numbers modulo their count, and these two are below it.
  have hleft : (Uuid.ofNat n).val = n := Nat.mod_eq_of_lt (by unfold identifiers at hmore; omega)
  have hright : (Uuid.ofNat (m.inserted + 1)).val = m.inserted + 1 := Nat.mod_eq_of_lt hmore
  omega

/-- Answers a call, but takes no more rules than there are identifiers. -/
def answerNumbered (c : StoreCall) (m : Memory) : Except RuleFault c.Answer × Memory :=
  match c with
  | .insert r =>
    if m.inserted + 1 < identifiers then
      (.ok (m.answerStore (.insert r)).1, (m.answerStore (.insert r)).2)
    else (.error .storeUnavailable, m)
  | c => (.ok (m.answerStore c).1, (m.answerStore c).2)

theorem inOrder_insert {m : Memory} (h : m.InOrder) (hmore : m.inserted + 1 < identifiers)
    (r : Rule) : (m.answerStore (.insert r)).2.InOrder := by
  constructor
  · apply List.pairwise_append.mpr
    refine ⟨h.distinct, List.pairwise_singleton .., fun a ha b hb => ?_⟩
    rw [List.mem_singleton.mp hb]
    exact h.fresh hmore a ha
  · intro q hq
    rcases List.mem_append.mp hq with hq | hq
    · obtain ⟨n, hn, hid⟩ := h.numbered q hq
      exact ⟨n, Nat.le_succ_of_le hn, hid⟩
    · rw [List.mem_singleton.mp hq]
      exact ⟨m.inserted + 1, Nat.le_refl _, rfl⟩
  · exact hmore

theorem inOrder_update {m : Memory} (h : m.InOrder) (r : Rule) :
    (m.answerStore (.update r)).2.InOrder := by
  unfold answerStore
  dsimp only
  split
  next => exact h.of_ids rfl (List.Sublist.refl _)
  next =>
    refine h.of_ids ?_ ?_
    · rfl
    · show List.Sublist (List.map _ (replaceFirst _ m.rules)) _
      simp only [ids_replaceFirst, List.Sublist.refl]

theorem inOrder_remove {m : Memory} (h : m.InOrder) (id : Uuid) :
    (m.answerStore (.remove id)).2.InOrder :=
  h.of_ids rfl (List.filter_sublist.map _)

theorem inOrder_answerNumbered (c : StoreCall) {m : Memory} (h : m.InOrder) :
    (answerNumbered c m).2.InOrder := by
  cases c with
  | insert r =>
    unfold answerNumbered
    split
    next hmore => exact inOrder_insert h hmore r
    next => exact h
  | update r => exact inOrder_update h r
  | remove id => exact inOrder_remove h id
  | fetchEnabled => exact h
  | fetchById id => exact h
  | fetchByIds ids => exact h
  | ping => exact h

theorem lawful_insert {m : Memory} (h : m.InOrder) (r : Rule) :
    StoreCall.Outcome m.rules (.insert r) (answerNumbered (.insert r) m).1
      (answerNumbered (.insert r) m).2.rules := by
  unfold answerNumbered
  split
  next hmore =>
    refine ⟨⟨Uuid.ofNat (m.inserted + 1), _, _, ?_, rfl⟩, fun x => ?_⟩
    · exact ruleWith?_eq_none_iff.mpr (h.fresh hmore)
    · show x ∈ m.rules ++ [_] ↔ _
      rw [List.mem_append, List.mem_singleton]
      exact Or.comm
  next => rfl

theorem lawful_update {m : Memory} (h : m.InOrder) (r : Rule) :
    StoreCall.Outcome m.rules (.update r) (answerNumbered (.update r) m).1
      (answerNumbered (.update r) m).2.rules := by
  show StoreCall.Effect m.rules (.update r) (m.answerStore (.update r)).1
    (m.answerStore (.update r)).2.rules
  unfold answerStore
  dsimp only
  split
  next hfind =>
    refine ⟨fun old hold heq => ?_, rfl⟩
    exact List.find?_eq_none.mp hfind old hold (decide_eq_true heq)
  next old hfind =>
    have hmem : old ∈ m.rules := List.mem_of_find?_eq_some hfind
    have hid := List.find?_some hfind
    have hold : ∃ old ∈ m.rules, old.id = r.id := ⟨old, hmem, of_decide_eq_true hid⟩
    refine ⟨⟨_, _, rfl⟩, hold, fun x => ?_⟩
    exact mem_replaceFirst h.distinct hold

theorem lawful_remove {m : Memory} (id : Uuid) :
    StoreCall.Outcome m.rules (.remove id) (answerNumbered (.remove id) m).1
      (answerNumbered (.remove id) m).2.rules := by
  refine ⟨?_, fun hnone => ?_, fun x => ?_⟩
  · show (m.rules.any fun r => r.id = some id) = true ↔ _
    simp [List.any_eq_true]
  · have hall : ∀ r ∈ m.rules, r.id ≠ some id := by
      have hany : (m.rules.any fun r => r.id = some id) = false := hnone
      simpa [List.any_eq_false] using hany
    exact List.filter_eq_self.mpr fun r hr => decide_eq_true (hall r hr)
  · show x ∈ m.rules.filter _ ↔ _
    rw [List.mem_filter, decide_eq_true_iff]

/-- **The store in memory.** -/
def store : RuleStore { m : Memory // m.InOrder } where
  rules m := m.1.rules
  answer c m := ((answerNumbered c m.1).1, ⟨(answerNumbered c m.1).2, inOrder_answerNumbered c m.2⟩)
  wellKept m := m.2.wellKept
  lawful
    | .fetchEnabled, _ => ⟨rfl, rfl⟩
    | .fetchById _, _ => ⟨rfl, rfl⟩
    | .fetchByIds ids, m => by
      refine ⟨fun r => ?_, rfl⟩
      show r ∈ m.1.rules.filter _ ↔ _
      simp [List.mem_filter, List.any_eq_true]
    | .insert r, m => lawful_insert m.2 r
    | .update r, m => lawful_update m.2 r
    | .remove id, _ => lawful_remove id
    | .ping, _ => rfl

theorem available_store : store.Available := by
  intro c m hread
  cases c with
  | fetchEnabled => exact ⟨_, rfl⟩
  | fetchById id => exact ⟨_, rfl⟩
  | fetchByIds ids => exact ⟨_, rfl⟩
  | ping => exact ⟨_, rfl⟩
  | insert r => exact nomatch hread
  | update r => exact nomatch hread
  | remove id => exact nomatch hread

/-- A memory without rules. -/
def empty : { m : Memory // m.InOrder } where
  val := {}
  property := ⟨List.Pairwise.nil, (fun _ h => nomatch h), by decide⟩

/-- A memory with one rule, which has the first number. -/
def single (r : Rule) : { m : Memory // m.InOrder } where
  val := { rules := [{ r with id := some (Uuid.ofNat 1) }], inserted := 1 }
  property := by
    have hone : 1 < identifiers := by decide
    refine ⟨List.pairwise_singleton .., fun q hq => ?_, hone⟩
    rw [List.mem_singleton.mp hq]
    exact ⟨1, Nat.le_refl 1, rfl⟩

theorem ruleWith?_single (r : Rule) :
    ruleWith? (store.rules (single r)) (.ofNat 1) = some { r with id := some (.ofNat 1) } := by
  rw [(store.wellKept _).ruleWith?_eq_some_iff]
  exact ⟨List.mem_singleton.mpr rfl, rfl⟩

/-- The only rule of a memory is updated, and is fetched as it was stored, which is as it was given
but for its times. -/
theorem exists_update_single (old : Rule) {new : Rule} (hid : new.id = some (.ofNat 1)) :
    ∃ stored m, store.answer (.update new) (single old) = (.ok (some stored), m) ∧
      store.answer (.fetchById (.ofNat 1)) m = (.ok (some stored), m) ∧
      ruleWith? (store.rules m) (.ofNat 1) = some stored ∧
      stored.id = some (.ofNat 1) ∧ stored.name = new.name ∧
      ∃ created updated, stored = { new with createdAt := created, updatedAt := updated } := by
  obtain ⟨_, _, _, _, _, _, _, _, _, _⟩ := new
  cases hid
  exact ⟨_, _, rfl, rfl, rfl, rfl, rfl, _, _, rfl⟩

end Memory

end AlertRules
