import AlertRules.Proofs.Repository.Soundness
import Mathlib.Data.List.Basic

/-!
# Reads

While the rules of the store stay as they are, and every entry of the cache fits them, a read
answers what the store has: the enabled rules in order, or the rule with an identifier (`Reads`). It
does so from the list and the rules in the cache, from the store, or from both, and leaves only
entries that fit.

The case that needs an argument is a cached list of which some rules are not cached. They are
fetched together, in any order, and put where they belong (`assemble_eq`).

> `sound_perform`: on the terms of `Terms.reading`, every read is sound, and answers what the store
> has.
-/

namespace AlertRules

/-! ## Putting a list together -/

namespace Repository

theorem fetched?_filter_ne {fetched : List Rule} {id id' : Uuid} (h : id' ≠ id) :
    fetched? (fetched.filter fun r => r.id ≠ some id) id' = fetched? fetched id' := by
  unfold fetched?
  rw [List.filter_filter]
  congr 1
  apply List.filter_congr
  intro r _
  by_cases hid : r.id = some id'
  · have hne : r.id ≠ some id := fun heq => h (Option.some.inj (hid.symm.trans heq))
    simp [hid, h]
  · simp [hid]

/-- A list is put together from what is cached and what was fetched for the rest. -/
theorem assemble_eq : ∀ {found : List (Uuid × Option Rule)} {fetched : List Rule},
    (found.map Prod.fst).Nodup →
      assemble found fetched = found.filterMap fun e => e.2 <|> fetched? fetched e.1
  | [], _, _ => rfl
  | (id, some r) :: rest, fetched, h => by
    rw [List.map_cons, List.nodup_cons] at h
    rw [assemble, assemble_eq h.2]
    rfl
  | (id, none) :: rest, fetched, h => by
    rw [List.map_cons, List.nodup_cons] at h
    -- An identifier is used once, so taking its rule out does not matter to the others.
    have hrest : (rest.filterMap fun e =>
        e.2 <|> fetched? (fetched.filter fun r => r.id ≠ some id) e.1) =
        rest.filterMap fun e => e.2 <|> fetched? fetched e.1 := by
      apply List.filterMap_congr
      intro e he
      have hne : e.1 ≠ id := fun heq => h.1 (List.mem_map.mpr ⟨e, he, heq⟩)
      rw [fetched?_filter_ne hne]
    rw [assemble, assemble_eq h.2, hrest, List.filterMap_cons]
    cases hf : fetched? fetched id with
    | none => simp
    | some r => simp

theorem mem_of_fetched? {rules : List Rule} {id : Uuid} {r : Rule}
    (h : fetched? rules id = some r) : r ∈ rules ∧ r.id = some id := by
  have hmem := List.mem_filter.mp (List.mem_of_getLast? h)
  exact ⟨hmem.1, of_decide_eq_true hmem.2⟩

/-- What was fetched for an identifier is the rule the store has with it. -/
theorem fetched?_eq {rules fetched : List Rule} {ids : List Uuid} (hkept : WellKept rules)
    (hfetched : ∀ r, r ∈ fetched ↔ r ∈ rules ∧ ∃ id ∈ ids, r.id = some id) {id : Uuid}
    (hid : id ∈ ids) : fetched? fetched id = ruleWith? rules id := by
  cases hlast : fetched? fetched id with
  | some r =>
    obtain ⟨hmem, hr⟩ := mem_of_fetched? hlast
    exact (hkept.ruleWith?_eq_some_iff.mpr ⟨((hfetched r).mp hmem).1, hr⟩).symm
  | none =>
    have hempty := List.getLast?_eq_none_iff.mp hlast
    symm
    rw [ruleWith?_eq_none_iff]
    intro r hr hrid
    have hmem : r ∈ fetched := (hfetched r).mpr ⟨hr, id, hid, hrid⟩
    exact List.filter_eq_nil_iff.mp hempty r hmem (decide_eq_true hrid)

/-- An identifier is missing if nothing was found for it. -/
theorem mem_missing_iff {found : List (Uuid × Option Rule)} {id : Uuid} :
    id ∈ missing found ↔ (id, none) ∈ found := by
  constructor
  · intro h
    obtain ⟨⟨id', c⟩, hmem, hc⟩ := List.mem_filterMap.mp h
    dsimp only at hc
    split at hc
    next hnone =>
      cases hc
      rwa [Option.isNone_iff_eq_none.mp hnone] at hmem
    next => cases hc
  · exact fun hmem => List.mem_filterMap.mpr ⟨(id, none), hmem, rfl⟩

/-- The identifiers of enabled rules lead back to them. -/
theorem filterMap_enabledIds {rules : List Rule} (hkept : WellKept rules) :
    (enabledIds rules).filterMap (ruleWith? rules) = enabledOf rules := by
  -- Not only the enabled rules but any of them, so that the induction is on a list of their own.
  have hsub : ∀ {rs : List Rule}, (∀ r ∈ rs, r ∈ rules) →
      (rs.filterMap (·.id)).filterMap (ruleWith? rules) = rs := by
    intro rs
    induction rs with
    | nil => intro _; rfl
    | cons r rest ih =>
      intro hrs
      have hr := hrs r (List.mem_cons_self ..)
      obtain ⟨id, hid⟩ := Option.isSome_iff_exists.mp (hkept.numbered r hr)
      have hwith : ruleWith? rules id = some r := hkept.ruleWith?_eq_some_iff.mpr ⟨hr, hid⟩
      have ihrest := ih fun q hq => hrs q (List.mem_cons_of_mem _ hq)
      rw [List.filterMap_cons, hid]
      dsimp only
      rw [List.filterMap_cons, hwith]
      dsimp only
      rw [ihrest]
  exact hsub fun r hr => (List.mem_filter.mp hr).1

theorem nodup_enabledIds {rules : List Rule} (hkept : WellKept rules) :
    (enabledIds rules).Nodup := by
  have hpair := hkept.enabledOf.distinct
  apply List.Pairwise.filterMap _ _ hpair
  intro a b hne id ha id' hb heq
  exact hne (by rw [ha, hb, heq])

/-- A list of identifiers is put together into the rules the store has with them, if what was cached
and what was fetched is what the store has. -/
theorem assemble_eq_filterMap {rules fetched : List Rule} {ids : List Uuid}
    {found : List (Uuid × Option Rule)} (hkept : WellKept rules) (hnodup : ids.Nodup)
    (hids : found.map Prod.fst = ids)
    (hcached : ∀ id r, (id, some r) ∈ found → ruleWith? rules id = some r)
    (hfetched : ∀ r, r ∈ fetched ↔ r ∈ rules ∧ ∃ id ∈ missing found, r.id = some id) :
    assemble found fetched = ids.filterMap (ruleWith? rules) := by
  have hlookup : found.filterMap (fun e => e.2 <|> fetched? fetched e.1) =
      found.filterMap fun e => ruleWith? rules e.1 := by
    apply List.filterMap_congr
    rintro ⟨id, cached⟩ he
    cases cached with
    | some r => exact (hcached id r he).symm
    | none =>
      have hmissing : id ∈ missing found := mem_missing_iff.mpr he
      exact fetched?_eq hkept hfetched hmissing
  rw [assemble_eq (hids ▸ hnodup), hlookup, ← hids, List.filterMap_map]
  rfl

end Repository

/-! ## What reads answer -/

/-- What a read answers if the store has some rules: what is there, or a fault if the store may
fail. -/
inductive Reads (rules : List Rule) (fails : Prop) : RuleOperation → RuleReply → Prop
  | enabledRules :
    Reads rules fails .enabledRules (.rules (.ok (Rule.sortByPriority (enabledOf rules))))
  | byId {id : Uuid} : Reads rules fails (.byId id) (.rule (.ok (ruleWith? rules id)))
  | enabledRulesFails {f : RuleFault} (h : fails) :
    Reads rules fails .enabledRules (.rules (.error f))
  | byIdFails {id : Uuid} {f : RuleFault} (h : fails) :
    Reads rules fails (.byId id) (.rule (.error f))

/-- A store that does not fail leaves no choice. -/
theorem Reads.eq {rules : List Rule} {op : RuleOperation} {a b : RuleReply}
    (ha : Reads rules False op a) (hb : Reads rules False op b) : a = b := by
  cases ha with
  | enabledRules =>
    cases hb with
    | enabledRules => rfl
    | enabledRulesFails h => exact h.elim
  | byId =>
    cases hb with
    | byId => rfl
    | byIdFails h => exact h.elim
  | enabledRulesFails h => exact h.elim
  | byIdFails h => exact h.elim

/-- The terms of reads while a store has some rules: nothing is changed, the store answers what it
should, and may fail only if that is granted, and every entry fits. -/
def Terms.reading (rules : List Rule) (fails : Prop) : Terms where
  asks c := c.isRead
  tells c x := c.Outcome rules x rules ∧ (fails ∨ ∃ a, x = .ok a)
  finds := Repository.Fits rules
  fits := Repository.Fits rules
  finds_of_fits := id

namespace Repository

variable {rules : List Rule} {fails : Prop}

theorem takes_of_mem (hkept : WellKept rules) {r : Rule} (hr : r ∈ rules) (hfaithful : r.Faithful) :
    Takes (.reading rules fails) r := by
  intro id hid
  apply fits_ruleKey
  rw [hkept.ruleWith?_eq_some_iff.mpr ⟨hr, hid⟩]
  exact ruleFits_text hfaithful

theorem eq_of_offers {id : Uuid} {r : Rule} (h : Offers (.reading rules fails) id r) :
    ruleWith? rules id = some r := by
  obtain ⟨text, hfits, hread⟩ := h
  exact hfits.rule id rfl r hread

variable (repo : Repository)

/-- A store that has some rules serves a call. -/
theorem serves_reading {c : StoreCall} {answered : c.Answer → Prop} {failed : RuleFault → Prop}
    (hread : c.isRead) (hok : ∀ a, c.Effect rules a rules → answered a)
    (herror : fails → ∀ f, failed f) : Serves (.reading rules fails) c answered failed := by
  refine ⟨hread, fun a ha => hok a ha.1, fun f hf => ?_⟩
  rcases hf.2 with hfails | ⟨a, ha⟩
  · exact herror hfails f
  · exact nomatch ha

/-- The rule with an identifier is the one the store has. -/
theorem sound_byId_reading (hkept : WellKept rules) (hfaithful : ∀ r ∈ rules, r.Faithful)
    (id : Uuid) :
    Sound (.reading rules fails) (fun x => Reads rules fails (.byId id) (.rule x))
      (repo.byId id) := by
  apply repo.sound_byId
  · intro r hr
    rw [← eq_of_offers hr]
    exact .byId
  · apply serves_reading rfl
    · rintro found ⟨hfound, -⟩
      refine ⟨fun r hr => ?_, hfound ▸ .byId⟩
      have hmem := (mem_of_ruleWith? (hfound.symm.trans hr)).1
      exact takes_of_mem hkept hmem (hfaithful r hmem)
    · exact fun hfails f => .byIdFails hfails

/-- A list of identifiers that fits is resolved into the enabled rules. -/
theorem sound_resolveIds_reading (hkept : WellKept rules) (hfaithful : ∀ r ∈ rules, r.Faithful) :
    Sound (.reading rules fails)
      (fun x => Reads rules fails .enabledRules (.rules (x.map Rule.sortByPriority)))
      (repo.resolveIds (enabledIds rules)) := by
  have hassemble : ∀ found fetched, FoundFor (.reading rules fails) (enabledIds rules) found →
      (∀ r, r ∈ fetched ↔ r ∈ rules ∧ ∃ id ∈ missing found, r.id = some id) →
        assemble found fetched = enabledOf rules := by
    intro found fetched hfound hfetched
    rw [← filterMap_enabledIds hkept]
    exact assemble_eq_filterMap hkept (nodup_enabledIds hkept) hfound.ids_eq
      (fun id r hmem => eq_of_offers (hfound.offers id r hmem)) hfetched
  apply repo.sound_resolveIds
  · intro found hfound hnone
    rw [hassemble found [] hfound fun r => by simp [hnone]]
    exact .enabledRules
  · intro found hfound _
    apply serves_reading rfl
    · rintro fetched ⟨hfetched, -⟩
      refine ⟨fun r hr => ?_, ?_⟩
      · have hmem := ((hfetched r).mp hr).1
        exact takes_of_mem hkept hmem (hfaithful r hmem)
      · rw [hassemble found fetched hfound hfetched]
        exact .enabledRules
    · exact fun hfails f => .enabledRulesFails hfails

/-- The enabled rules are those the store has. -/
theorem sound_enabledRules_reading (hkept : WellKept rules) (hfaithful : ∀ r ∈ rules, r.Faithful) :
    Sound (.reading rules fails) (fun x => Reads rules fails .enabledRules (.rules x))
      repo.enabledRules := by
  apply repo.sound_enabledRules
  · intro text ids hfits hread
    obtain rfl := hfits.list rfl ids hread
    exact repo.sound_resolveIds_reading hkept hfaithful
  · apply serves_reading rfl
    · rintro found ⟨rfl, -⟩
      refine ⟨fits_listKey (listFits_idsText _), fun r hr => ?_, .enabledRules⟩
      have hmem := (List.mem_filter.mp hr).1
      exact takes_of_mem hkept hmem (hfaithful r hmem)
    · exact fun hfails f => .enabledRulesFails hfails

/-- **On these terms every read is sound, and answers what the store has.** -/
theorem sound_perform (hkept : WellKept rules) (hfaithful : ∀ r ∈ rules, r.Faithful)
    {op : RuleOperation} (hread : op.isRead) :
    Sound (.reading rules fails) (Reads rules fails op) (repo.perform op) := by
  cases op with
  | enabledRules =>
    exact (repo.sound_enabledRules_reading hkept hfaithful).andThen fun _ h => h
  | byId id => exact (repo.sound_byId_reading hkept hfaithful id).andThen fun _ h => h
  | create r => exact nomatch hread
  | update r => exact nomatch hread
  | delete id => exact nomatch hread

/-! ## Reading from the cache -/

/-- What a lookup finds in an answer. -/
def foundIn : Except RuleFault (Option String) → Option String
  | .ok text => text
  | .error _ => none

/-- How a lookup came out. -/
def outcomeOf : Except RuleFault (Option String) → LookupOutcome
  | .ok (some _) => .hit
  | .ok none => .miss
  | .error _ => .error

variable {repo : Repository}

/-- A lookup asks the cache, and notes how that came out. -/
theorem lookUp_eq (hcached : repo.cached = true) (kind key : String) :
    repo.lookUp kind key = .ask (.cache (.get key)) fun x =>
      .ask (.observe (.lookup kind (outcomeOf x))) fun _ => .done (foundIn x) := by
  rw [lookUp, if_pos hcached]
  show Program.ask _ _ = Program.ask _ _
  congr 1
  funext x
  match x with
  | .ok (some text) => rfl
  | .ok none => rfl
  | .error e => rfl

variable {σ : Type} {S : RuleStore σ} {hz : Hazards} {w : World σ}

/-- A rule that can be read in the cache is answered from there. -/
theorem reaches_byId_cached (hcached : repo.cached = true) {id : Uuid} {text : String} {r : Rule}
    (hentry : w.entries (ruleKey id) = some text) (hread : Rule.read? text = some r) :
    Reaches S hz (repo.perform (.byId id)) w
      [⟨.cache (.get (ruleKey id)), .ok (some text)⟩, ⟨.observe (.lookup "rule" .hit), ()⟩]
      (.done (.rule (.ok (some r)))) w := by
  have hget : w.Step S hz (.cache (.get (ruleKey id))) (.ok (some text)) w := hentry ▸ .get
  rw [perform, byId, cachedRule, lookUp_eq hcached]
  refine .next (.inl rfl) hget (.next (.inl rfl) .observe ?_)
  show Reaches S hz (Program.andThen (Program.andThen (.done (Rule.read? text)) _) _) w [] _ w
  rw [hread]
  exact .refl _ _

variable (S hz) in
/-- A rule that is not cached is looked up, and is then to be fetched and put into the cache. -/
theorem exists_fetching (hcached : repo.cached = true) (id : Uuid) :
    ∃ rest : Except RuleFault (Option Rule) → Work RuleReply,
      (∀ w : World σ, w.entries (ruleKey id) = none →
        Reaches S hz (repo.perform (.byId id)) w
          [⟨.cache (.get (ruleKey id)), .ok none⟩, ⟨.observe (.lookup "rule" .miss), ()⟩]
          (.ask (.store (.fetchById id)) rest) w) ∧
      ∀ r : Rule, r.id = some id → rest (.ok (some r)) =
        .ask (.cache (.set (ruleKey id) r.text repo.ruleTtl)) fun _ =>
          .done (.rule (.ok (some r))) := by
  apply Exists.intro
  constructor
  · intro w hmiss
    have hget : w.Step S hz (.cache (.get (ruleKey id))) (.ok none) w := hmiss ▸ .get
    rw [perform, byId, cachedRule, lookUp_eq hcached]
    exact .next (.inl rfl) hget (.next (.inl rfl) .observe (.refl _ _))
  · intro r hid
    show Program.andThen (Program.andThen (repo.cacheRule r) _) _ = _
    rw [cacheRule, hid]
    dsimp only
    rw [keep, if_pos hcached]
    rfl

/-- A rule that is not cached is fetched, and is then to be put into the cache. -/
theorem reaches_byId_missed (hcached : repo.cached = true) {id : Uuid} {r : Rule}
    (hmiss : w.entries (ruleKey id) = none) (hid : r.id = some id)
    (hfetch : S.answer (.fetchById id) w.store = (.ok (some r), w.store)) :
    Reaches S hz (repo.perform (.byId id)) w
      [⟨.cache (.get (ruleKey id)), .ok none⟩, ⟨.observe (.lookup "rule" .miss), ()⟩,
        ⟨.store (.fetchById id), .ok (some r)⟩]
      (.ask (.cache (.set (ruleKey id) r.text repo.ruleTtl)) fun _ => .done (.rule (.ok (some r))))
      w := by
  obtain ⟨rest, hlooked, hrest⟩ := exists_fetching S hz hcached id
  have hasked : w.Step S hz (.store (.fetchById id)) (.ok (some r)) w := .of_answer hfetch
  rw [← hrest r hid]
  exact (hlooked w hmiss).trans (.next (.inl rfl) hasked (.refl _ _))

end Repository

end AlertRules
