import AlertRules.Proofs.Repository.Writing

/-!
# What concerns one rule

Of everything in a store, what matters to the readers of one rule is what the store has under its
identifier: the rule, or nothing. Only the writes of that rule change it
(`StoreCall.Effect.ruleWith?_eq`), whatever else is written meanwhile. In the cache it shows in two
entries: the rule under its key, and whether its identifier is on the list of enabled rules
(`SlotFits`).

The terms of `Terms.slot` count on nothing else. They distinguish what the store may have under the
identifier while a program works (`wants`) from what the cache may show of it (`seen`): a program
that was begun before a write may still find what is stale by now.

> `sound_perform_slot`: every operation puts into the cache only what the store had under the
> identifier when it was asked.

> `sound_read_slot`: a read that finds in the cache only what the store has reflects that.
-/

namespace AlertRules

/-! ## What a call changes -/

namespace StoreCall

/-- The rule a call has changed: its identifier, and what the store has under it now. -/
def wrote? : (c : StoreCall) → c.Answer → Option (Uuid × Option Rule)
  | insert _, stored => stored.id.map fun id => (id, some stored)
  | update r, some stored => r.id.map fun id => (id, some stored)
  | update _, none => none
  | remove id, true => some (id, none)
  | remove _, false => none
  | fetchEnabled, _ | fetchById _, _ | fetchByIds _, _ | ping, _ => none

end StoreCall

theorem WellKept.ruleWith?_congr {rules rules' : List Rule} {id : Uuid} (h : WellKept rules)
    (h' : WellKept rules') (hmem : ∀ r, r.id = some id → (r ∈ rules' ↔ r ∈ rules)) :
    ruleWith? rules' id = ruleWith? rules id := by
  apply Option.ext
  intro r
  rw [h'.ruleWith?_eq_some_iff, h.ruleWith?_eq_some_iff]
  constructor
  · exact fun ⟨hr, hid⟩ => ⟨(hmem r hid).mp hr, hid⟩
  · exact fun ⟨hr, hid⟩ => ⟨(hmem r hid).mpr hr, hid⟩

/-- A call that changes one rule and no other changes what the store has under that identifier
only. -/
theorem StoreCall.ruleWith?_of_wrote {before after : List Rule} {c : StoreCall} {a : c.Answer}
    (hbefore : WellKept before) (hafter : WellKept after) {writtenId : Uuid} {written : Option Rule}
    (hwrote : c.wrote? a = some (writtenId, written))
    (hwritten : ruleWith? after writtenId = written)
    (hothers : ∀ q, q.id ≠ some writtenId → (q ∈ after ↔ q ∈ before)) (id : Uuid) :
    (∃ want, c.wrote? a = some (id, want) ∧ ruleWith? after id = want) ∨
      (∀ want, c.wrote? a ≠ some (id, want)) ∧ ruleWith? after id = ruleWith? before id := by
  rw [hwrote]
  by_cases hsame : writtenId = id
  · subst hsame
    exact .inl ⟨written, rfl, hwritten⟩
  · refine .inr ⟨fun want heq => hsame (Prod.ext_iff.mp (Option.some.inj heq)).1, ?_⟩
    apply hbefore.ruleWith?_congr hafter
    intro q hq
    apply hothers
    rw [hq]
    exact fun heq => hsame (Option.some.inj heq).symm

/-- **A call changes what the store has under one identifier at most.** -/
theorem StoreCall.Effect.ruleWith?_eq {before after : List Rule} {c : StoreCall} {a : c.Answer}
    (h : c.Effect before a after) (hbefore : WellKept before) (hafter : WellKept after)
    (id : Uuid) :
    (∃ want, c.wrote? a = some (id, want) ∧ ruleWith? after id = want) ∨
      (∀ want, c.wrote? a ≠ some (id, want)) ∧ ruleWith? after id = ruleWith? before id := by
  match c, a with
  | .fetchEnabled, found => exact .inr ⟨fun _ h => (nomatch h), congrArg (ruleWith? · id) h.2⟩
  | .fetchById _, found => exact .inr ⟨fun _ h => (nomatch h), congrArg (ruleWith? · id) h.2⟩
  | .fetchByIds _, found => exact .inr ⟨fun _ h => (nomatch h), congrArg (ruleWith? · id) h.2⟩
  | .ping, found => exact .inr ⟨fun _ h => (nomatch h), congrArg (ruleWith? · id) h⟩
  | .insert r, stored =>
    obtain ⟨⟨newId, createdAt, updatedAt, -, heq⟩, hmem⟩ := h
    have hid : stored.id = some newId := by rw [heq]
    have hstored : stored ∈ after := (hmem stored).mpr (.inl rfl)
    have hwrote : wrote? (.insert r) stored = some (newId, some stored) := by
      rw [wrote?, hid]
      rfl
    apply ruleWith?_of_wrote hbefore hafter hwrote
    · exact hafter.ruleWith?_eq_some_iff.mpr ⟨hstored, hid⟩
    · intro q hq
      rw [hmem q]
      exact or_iff_right fun heq => hq (heq ▸ hid)
  | .update r, none =>
    exact .inr ⟨fun _ h => (nomatch h), congrArg (ruleWith? · id) h.2⟩
  | .update r, some stored =>
    obtain ⟨⟨createdAt, updatedAt, heq⟩, -, hmem⟩ := h
    -- What is stored has the identifier of the rule it replaces.
    have hstored : stored ∈ after := (hmem stored).mpr (.inl rfl)
    obtain ⟨oldId, hid⟩ := Option.isSome_iff_exists.mp (hafter.numbered stored hstored)
    have hrid : r.id = some oldId := by
      rw [← hid, heq]
    have hwrote : wrote? (.update r) (some stored) = some (oldId, some stored) := by
      rw [wrote?, hrid]
      rfl
    apply ruleWith?_of_wrote hbefore hafter hwrote
    · exact hafter.ruleWith?_eq_some_iff.mpr ⟨hstored, hid⟩
    · intro q hq
      rw [hmem q, hrid]
      constructor
      · rintro (rfl | hq')
        · exact absurd hid hq
        · exact hq'.1
      · exact fun hq' => .inr ⟨hq', hq⟩
  | .remove _, false =>
    exact .inr ⟨fun _ h => (nomatch h), congrArg (ruleWith? · id) (h.2.1 rfl)⟩
  | .remove gone, true =>
    obtain ⟨-, -, hmem⟩ := h
    have hwrote : wrote? (.remove gone) true = some (gone, none) := rfl
    apply ruleWith?_of_wrote hbefore hafter hwrote
    · exact ruleWith?_eq_none_iff.mpr fun q hq => ((hmem q).mp hq).2
    · intro q hq
      rw [hmem q]
      exact and_iff_left hq

namespace Repository

/-! ## What entries say of it -/

/-- That an entry says of a rule what the store may have under its identifier: the text under the
key of any rule is of a rule with that identifier, and the list has no identifier twice. -/
structure SlotFits (id : Uuid) (wants : Option Rule → Prop) (key text : String) : Prop where
  rule : ∀ id' r, key = ruleKey id' → Rule.read? text = some r →
    r.id = some id' ∧ (id' = id → wants (some r))
  list : key = listKey → ∀ ids, readIds? text = some ids → ids.Nodup ∧
    ∃ want, wants want ∧ (id ∈ ids ↔ ∃ r, want = some r ∧ r.enabled = true)

variable {id : Uuid} {wants wants' : Option Rule → Prop} {rules : List Rule}

theorem SlotFits.mono {key text : String} (h : SlotFits id wants key text)
    (hwants : ∀ want, wants want → wants' want) : SlotFits id wants' key text := by
  constructor
  · intro id' r hkey hread
    obtain ⟨hid, hwant⟩ := h.rule id' r hkey hread
    exact ⟨hid, fun heq => hwants _ (hwant heq)⟩
  · intro hkey ids hread
    obtain ⟨hnodup, want, hwant, hmem⟩ := h.list hkey ids hread
    exact ⟨hnodup, want, hwants want hwant, hmem⟩

theorem mem_enabledIds_iff (hkept : WellKept rules) :
    id ∈ enabledIds rules ↔ ∃ r, ruleWith? rules id = some r ∧ r.enabled = true := by
  unfold enabledIds
  rw [List.mem_filterMap]
  constructor
  · rintro ⟨r, hr, hid⟩
    obtain ⟨hmem, henabled⟩ := List.mem_filter.mp hr
    exact ⟨r, hkept.ruleWith?_eq_some_iff.mpr ⟨hmem, hid⟩, henabled⟩
  · rintro ⟨r, hr, henabled⟩
    obtain ⟨hmem, hid⟩ := mem_of_ruleWith? hr
    exact ⟨r, List.mem_filter.mpr ⟨hmem, henabled⟩, hid⟩

/-- An entry that fits the rules of a store says what that has. -/
theorem Fits.slotFits {key text : String} (h : Fits rules key text) (hkept : WellKept rules)
    (hwants : wants (ruleWith? rules id)) : SlotFits id wants key text := by
  constructor
  · intro id' r hkey hread
    have hwith := h.rule id' hkey r hread
    refine ⟨(mem_of_ruleWith? hwith).2, fun heq => ?_⟩
    rw [← hwith, heq]
    exact hwants
  · intro hkey ids hread
    rw [h.list hkey ids hread]
    exact ⟨nodup_enabledIds hkept, _, hwants, mem_enabledIds_iff hkept⟩

/-- What is cached of a rule says what the store has. -/
theorem slotFits_text (hkept : WellKept rules) (hwants : wants (ruleWith? rules id)) {r : Rule}
    (hr : r ∈ rules) (hfaithful : r.Faithful) {id' : Uuid} (hid : r.id = some id') :
    SlotFits id wants (ruleKey id') r.text := by
  apply (fits_ruleKey _).slotFits hkept hwants
  rw [hkept.ruleWith?_eq_some_iff.mpr ⟨hr, hid⟩]
  exact ruleFits_text hfaithful

/-- So does what is cached of the list. -/
theorem slotFits_idsText (hkept : WellKept rules) (hwants : wants (ruleWith? rules id)) :
    SlotFits id wants listKey (idsText (enabledIds rules)) :=
  (fits_listKey (listFits_idsText _)).slotFits hkept hwants

end Repository

/-- The terms of programs that work while the store may have what is wanted under an identifier. -/
def Terms.slot (id : Uuid) (wants : Option Rule → Prop) (seen : String → Option Rule → Prop)
    (h : ∀ key want, wants want → seen key want) : Terms where
  asks := StoreCall.Faithful
  tells c x := ∃ before after, WellKept before ∧ (∀ r ∈ before, r.Faithful) ∧
    wants (ruleWith? before id) ∧ c.Outcome before x after ∧ (c.isRead → ∃ a, x = .ok a)
  finds key text := Repository.SlotFits id (seen key) key text
  fits key text := Repository.SlotFits id wants key text
  finds_of_fits hfits := hfits.mono (h _)

namespace Repository

variable {id : Uuid} {wants : Option Rule → Prop} {seen : String → Option Rule → Prop}
  {h : ∀ key want, wants want → seen key want} (repo : Repository)

/-- What a store answers of a read on these terms, and that it may be cached. -/
theorem serves_slot {c : StoreCall} {answered : c.Answer → Prop} {failed : RuleFault → Prop}
    (hread : c.isRead)
    (hok : ∀ rules a, WellKept rules → (∀ r ∈ rules, r.Faithful) → wants (ruleWith? rules id) →
      c.Effect rules a rules → answered a) :
    Serves (.slot id wants seen h) c answered failed := by
  refine ⟨StoreCall.faithful_of_read hread, fun a ha => ?_, fun e he => ?_⟩
  · obtain ⟨rules, after, hkept, hfaithful, hwants, houtcome, -⟩ := ha
    have hsame : after = rules := houtcome.of_read hread
    rw [hsame] at houtcome
    exact hok rules a hkept hfaithful hwants houtcome
  · obtain ⟨-, -, -, -, -, -, hanswers⟩ := he
    obtain ⟨a, ha⟩ := hanswers hread
    exact nomatch ha

theorem takes_slot {rules : List Rule} (hkept : WellKept rules)
    (hfaithful : ∀ r ∈ rules, r.Faithful) (hwants : wants (ruleWith? rules id)) {r : Rule}
    (hr : r ∈ rules) : Takes (.slot id wants seen h) r := fun _ hid =>
  slotFits_text hkept hwants hr (hfaithful r hr) hid

/-- One rule is read on these terms. -/
theorem sound_byId_slot {good : Except RuleFault (Option Rule) → Prop} {id' : Uuid}
    (hcached : ∀ r, Offers (.slot id wants seen h) id' r → good (.ok (some r)))
    (hstore : ∀ rules, wants (ruleWith? rules id) → good (.ok (ruleWith? rules id'))) :
    Sound (.slot id wants seen h) good (repo.byId id') := by
  apply repo.sound_byId hcached
  apply serves_slot rfl
  rintro rules found hkept hfaithful hwants ⟨rfl, -⟩
  refine ⟨fun r hr => ?_, hstore rules hwants⟩
  exact takes_slot hkept hfaithful hwants (mem_of_ruleWith? hr).1

/-- The enabled rules are read on these terms. -/
theorem sound_enabledRules_slot {good : Except RuleFault (List Rule) → Prop}
    (hcached : ∀ text ids found, SlotFits id (seen listKey) listKey text →
      readIds? text = some ids → FoundFor (.slot id wants seen h) ids found →
        (missing found = [] → good (.ok (Rule.sortByPriority (assemble found [])))) ∧
        ∀ rules fetched, WellKept rules → wants (ruleWith? rules id) →
          (∀ r, r ∈ fetched ↔ r ∈ rules ∧ ∃ id ∈ missing found, r.id = some id) →
            good (.ok (Rule.sortByPriority (assemble found fetched))))
    (hstore : ∀ rules, WellKept rules → wants (ruleWith? rules id) →
      good (.ok (Rule.sortByPriority (enabledOf rules)))) :
    Sound (.slot id wants seen h) good repo.enabledRules := by
  apply repo.sound_enabledRules
  · intro text ids hfinds hread
    apply repo.sound_resolveIds
    · intro found hfound hnone
      exact (hcached text ids found hfinds hread hfound).1 hnone
    · intro found hfound _
      apply serves_slot rfl
      rintro rules fetched hkept hfaithful hwants ⟨hfetched, -⟩
      refine ⟨fun r hr => ?_, ?_⟩
      · exact takes_slot hkept hfaithful hwants ((hfetched r).mp hr).1
      · exact (hcached text ids found hfinds hread hfound).2 rules fetched hkept hwants hfetched
  · apply serves_slot rfl
    rintro rules found hkept hfaithful hwants ⟨rfl, -⟩
    refine ⟨slotFits_idsText hkept hwants, fun r hr => ?_, hstore rules hkept hwants⟩
    exact takes_slot hkept hfaithful hwants (List.mem_filter.mp hr).1

/-- **Every operation puts into the cache only what the store had under the identifier when it was
asked.** -/
theorem sound_perform_slot {op : RuleOperation} (hop : op.Faithful) :
    Sound (.slot id wants seen h) (fun _ => True) (repo.perform op) := by
  cases op with
  | enabledRules =>
    have hread : Sound (.slot id wants seen h) (fun _ => True) repo.enabledRules :=
      repo.sound_enabledRules_slot (fun _ _ _ _ _ _ => ⟨fun _ => trivial, fun _ _ _ _ _ => trivial⟩)
        fun _ _ _ => trivial
    exact hread.andThen fun _ _ => trivial
  | byId id' =>
    have hread : Sound (.slot id wants seen h) (fun _ => True) (repo.byId id') :=
      repo.sound_byId_slot (fun _ _ => trivial) fun _ _ => trivial
    exact hread.andThen fun _ _ => trivial
  | create r =>
    have hwrite : Sound (.slot id wants seen h) (fun _ => True) (repo.create r) :=
      repo.sound_create ⟨hop, fun _ _ => trivial, fun _ _ => trivial⟩
    exact hwrite.andThen fun _ _ => trivial
  | update r =>
    have hwrite : Sound (.slot id wants seen h) (fun _ => True) (repo.update r) :=
      repo.sound_update (fun _ => trivial) ⟨hop, fun _ _ => trivial, fun _ _ => trivial⟩
    exact hwrite.andThen fun _ _ => trivial
  | delete id' =>
    have hwrite : Sound (.slot id wants seen h) (fun _ => True) (repo.delete id') :=
      repo.sound_delete ⟨hop, fun _ _ => trivial, fun _ _ => trivial⟩
    exact hwrite.andThen fun _ _ => trivial

/-! ## Reads that reflect the store -/

/-- That a read answers of one rule what the store has under its identifier. -/
inductive Reflects (id : Uuid) (want : Option Rule) : RuleOperation → RuleReply → Prop
  | byId : Reflects id want (.byId id) (.rule (.ok want))
  | enabledRules {rules : List Rule}
    (h : ∀ r, r ∈ rules ∧ r.id = some id ↔ want = some r ∧ r.enabled = true) :
    Reflects id want .enabledRules (.rules (.ok rules))

variable {want : Option Rule}

theorem mem_sortByPriority {rules : List Rule} {r : Rule} :
    r ∈ Rule.sortByPriority rules ↔ r ∈ rules := List.mem_mergeSort

/-- What the store lists reflects what it has. -/
theorem mem_enabledOf_iff {rules : List Rule} (hkept : WellKept rules) {r : Rule} :
    r ∈ enabledOf rules ∧ r.id = some id ↔
      ruleWith? rules id = some r ∧ r.enabled = true := by
  rw [hkept.ruleWith?_eq_some_iff, enabledOf, List.mem_filter]
  constructor
  · exact fun ⟨⟨hmem, henabled⟩, hid⟩ => ⟨⟨hmem, hid⟩, henabled⟩
  · exact fun ⟨⟨hmem, hid⟩, henabled⟩ => ⟨⟨hmem, henabled⟩, hid⟩

/-- A list that is put together reflects what is wanted, if the identifiers do, and what was found
and fetched under this one. -/
theorem mem_assemble_iff {ids : List Uuid} {found : List (Uuid × Option Rule)}
    {fetched : List Rule} (hnodup : ids.Nodup) (hids : found.map Prod.fst = ids)
    (hlisted : id ∈ ids ↔ ∃ r, want = some r ∧ r.enabled = true)
    (hcached : ∀ id' r, (id', some r) ∈ found → r.id = some id' ∧ (id' = id → want = some r))
    (hfetched : id ∈ missing found → fetched? fetched id = want) {r : Rule} :
    r ∈ assemble found fetched ∧ r.id = some id ↔ want = some r ∧ r.enabled = true := by
  rw [assemble_eq (hids ▸ hnodup), List.mem_filterMap]
  constructor
  · rintro ⟨⟨⟨id', cached⟩, hmem, hr⟩, hid⟩
    -- Whether it was cached or fetched, a rule was found under its own identifier.
    have hsame : id' = id := by
      cases cached with
      | some q =>
        obtain rfl := Option.some.inj hr
        exact Option.some.inj ((hcached id' q hmem).1.symm.trans hid)
      | none =>
        have hr' : fetched? fetched id' = some r := hr
        exact Option.some.inj ((mem_of_fetched? hr').2.symm.trans hid)
    subst hsame
    have hlist : id' ∈ ids := hids ▸ List.mem_map.mpr ⟨_, hmem, rfl⟩
    obtain ⟨q, rfl, henabled⟩ := hlisted.mp hlist
    have hq : some q = some r := by
      cases cached with
      | some c =>
        rw [(hcached id' c hmem).2 rfl]
        exact hr
      | none =>
        rw [← hfetched (mem_missing_iff.mpr hmem)]
        exact hr
    cases hq
    exact ⟨rfl, henabled⟩
  · rintro ⟨rfl, henabled⟩
    obtain ⟨⟨id', cached⟩, hmem, rfl⟩ := List.mem_map.mp (hids ▸ hlisted.mpr ⟨r, rfl, henabled⟩)
    cases cached with
    | some c =>
      obtain ⟨hid, hwant⟩ := hcached id' c hmem
      cases hwant rfl
      exact ⟨⟨_, hmem, rfl⟩, hid⟩
    | none =>
      have hr := hfetched (mem_missing_iff.mpr hmem)
      exact ⟨⟨_, hmem, hr⟩, (mem_of_fetched? hr).2⟩

/-- A rule that is read is the one that is wanted, if only that stands under its key. -/
theorem sound_byId_reflects {keys : List String} (hrule : ruleKey id ∈ keys) :
    Sound (.slot id (· = want) (fun key v => key ∈ keys → v = want) fun _ _ hv _ => hv)
      (fun x => Reflects id want (.byId id) (.rule x)) (repo.byId id) := by
  apply repo.sound_byId_slot
  · rintro r ⟨text, hfits, htext⟩
    obtain rfl := (hfits.rule id r rfl htext).2 rfl hrule
    exact .byId
  · rintro rules rfl
    exact .byId

/-- So it is in the list, if only what is wanted stands under the key of the list, too. -/
theorem sound_enabledRules_reflects {keys : List String} (hrule : ruleKey id ∈ keys)
    (hlist : listKey ∈ keys) :
    Sound (.slot id (· = want) (fun key v => key ∈ keys → v = want) fun _ _ hv _ => hv)
      (fun x => Reflects id want .enabledRules (.rules x)) repo.enabledRules := by
  apply repo.sound_enabledRules_slot
  · intro text ids found hfits htext hfound
    obtain ⟨hnodup, v, hv, hlisted⟩ := hfits.list rfl ids htext
    obtain rfl := hv hlist
    -- A rule is offered under its own identifier, and under this one only what is wanted.
    have hcached : ∀ id' r, (id', some r) ∈ found →
        r.id = some id' ∧ (id' = id → v = some r) := by
      intro id' r hmem
      obtain ⟨text', hfits', htext'⟩ := hfound.offers id' r hmem
      obtain ⟨hid, hsame⟩ := hfits'.rule id' r rfl htext'
      refine ⟨hid, fun heq => ?_⟩
      subst heq
      exact (hsame rfl hrule).symm
    constructor
    · intro hnone
      refine .enabledRules fun r => ?_
      rw [mem_sortByPriority]
      refine mem_assemble_iff hnodup hfound.ids_eq hlisted hcached fun hmem => ?_
      rw [hnone] at hmem
      exact nomatch hmem
    · rintro rules fetched hkept rfl hfetched
      refine .enabledRules fun r => ?_
      rw [mem_sortByPriority]
      refine mem_assemble_iff hnodup hfound.ids_eq hlisted hcached fun hmem => ?_
      exact fetched?_eq hkept hfetched hmem
  · rintro rules hkept rfl
    refine .enabledRules fun r => ?_
    rw [mem_sortByPriority]
    exact mem_enabledOf_iff hkept

/-- **A read that finds under the keys it looks up only what the store has reflects that.** -/
theorem sound_read_slot {keys : List String} (hrule : ruleKey id ∈ keys) {op : RuleOperation}
    (hop : op = .byId id ∨ op = .enabledRules ∧ listKey ∈ keys) :
    Sound (.slot id (· = want) (fun key v => key ∈ keys → v = want) fun _ _ hv _ => hv)
      (Reflects id want op) (repo.perform op) := by
  rcases hop with rfl | ⟨rfl, hlist⟩
  · exact (repo.sound_byId_reflects hrule).andThen fun _ hx => hx
  · exact (repo.sound_enabledRules_reflects hrule hlist).andThen fun _ hx => hx

end Repository

end AlertRules
