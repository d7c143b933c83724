import AlertRules.Proofs.Codec.Message
import AlertRules.Proofs.Repository.Transparency
import AlertRules.Validation

/-!
# Reading twice

A read leaves in the cache what it had to ask the store for, so that the next one need not ask
again. It is spared that only if the cached texts can be read. The list of identifiers always can;
the text of a rule only if the rule is `Shallow`, which the rules that are accepted for storing need
not be: a condition may be 64 levels deep, and then nests 127 deep as a text of its own, but 128
deep in the text of its rule.

While the cache is reliable, reads are functions of what is cached (`World.cached`): `byId` asks the
store if the rule is not, `enabledRules` if the list is not or one of its rules is not.

> `second_read_asks_iff`: after a read of accepted rules the next one asks the store if and only if
> one of the rules is not shallow. It answers the same in any case.
-/

namespace AlertRules

open Json

/-- That entries do not vanish, and neither lookups nor sets fail. -/
structure Hazards.Reliable (hz : Hazards) : Prop where
  expiry : ¬ hz.expiry
  get : ¬ hz.fails .get
  set : ¬ hz.fails .set

theorem World.Fades.eq_of_reliable {σ : Type} {hz : Hazards} {w w' : World σ} (hz' : hz.Reliable)
    (h : w.Fades hz w') : w' = w := h.eq_of_steady hz'.expiry

/-- That the store was asked. -/
def AsksStore (trace : List Exchange) : Prop := ∃ c x, (⟨.store c, x⟩ : Exchange) ∈ trace

theorem not_asksStore_nil : ¬ AsksStore [] := fun ⟨_, _, h⟩ => nomatch h

theorem asksStore_append {t t' : List Exchange} :
    AsksStore (t ++ t') ↔ AsksStore t ∨ AsksStore t' := by
  constructor
  · rintro ⟨c, x, h⟩
    rcases List.mem_append.mp h with h | h
    · exact .inl ⟨c, x, h⟩
    · exact .inr ⟨c, x, h⟩
  · rintro (⟨c, x, h⟩ | ⟨c, x, h⟩)
    · exact ⟨c, x, List.mem_append_left _ h⟩
    · exact ⟨c, x, List.mem_append_right _ h⟩

theorem asksStore_cons_store {c : StoreCall} {x : Except RuleFault c.Answer}
    {trace : List Exchange} : AsksStore (⟨.store c, x⟩ :: trace) :=
  ⟨c, x, List.mem_cons_self ..⟩

/-- The rule that can be read in the cache under an identifier. -/
def World.cached {σ : Type} (w : World σ) (id : Uuid) : Option Rule :=
  (w.entries (Repository.ruleKey id)).bind Rule.read?

/-- The list of identifiers that can be read in the cache. -/
def World.cachedList {σ : Type} (w : World σ) : Option (List Uuid) :=
  (w.entries Repository.listKey).bind Repository.readIds?

/-- That a rule is one that was accepted for storing, with the identifier and the instants the store
has given it. -/
def Rule.Accepted (r : Rule) : Prop :=
  ∃ (m : RuleMessage) (q : Rule), m.toRule = .ok q ∧ ({} : Validator).check q = .ok () ∧
    r = { q with id := r.id, createdAt := r.createdAt, updatedAt := r.updatedAt }

theorem Rule.Accepted.faithful {r : Rule} (h : r.Accepted) (hnum : r.EachValue Value.Survives) :
    r.Faithful := by
  obtain ⟨m, q, hread, -, heq⟩ := h
  have hordered : q.EachValue Value.Ordered := RuleMessage.ordered_of_toRule hread
  rw [heq] at hnum ⊢
  exact ⟨hordered, hnum⟩

namespace Repository

variable {repo : Repository} {σ : Type} {S : RuleStore σ} {hz : Hazards} {w w' : World σ}
  {trace : List Exchange}

/-! ## Runs while the cache is reliable -/

theorem of_lookUp (hcached : repo.cached = true) (hz' : hz.Reliable) {kind key : String}
    {text : Option String} (h : Reaches S hz (repo.lookUp kind key) w trace (.done text) w') :
    text = w.entries key ∧ w' = w ∧ ¬ AsksStore trace := by
  rw [lookUp_eq hcached] at h
  obtain ⟨w₁, x, w₂, trace₁, hfade, hget, hnote, rfl⟩ := Reaches.of_ask_done h
  obtain rfl := hfade.eq_of_reliable hz'
  obtain ⟨rfl, rfl⟩ := hget.of_get hz'.get
  obtain ⟨w₃, y, w₄, trace₂, hfade', hobserve, hend, rfl⟩ := Reaches.of_ask_done hnote
  obtain rfl := hfade'.eq_of_reliable hz'
  obtain rfl := hobserve.of_observe
  obtain ⟨rfl, hdone, rfl⟩ := Reaches.of_done hend
  cases hdone
  refine ⟨rfl, rfl, fun ⟨c, x, hmem⟩ => ?_⟩
  simp at hmem

theorem of_keep (hcached : repo.cached = true) (hz' : hz.Reliable) {key text : String} {ttl : Nat}
    {a : Unit} (h : Reaches S hz (repo.keep key text ttl) w trace (.done a) w') :
    w' = w.put key text := by
  rw [keep, if_pos hcached] at h
  obtain ⟨w₁, x, w₂, trace₁, hfade, hset, hend, rfl⟩ := Reaches.of_ask_done h
  obtain rfl := hfade.eq_of_reliable hz'
  obtain rfl := hset.of_set hz'.set
  obtain ⟨-, -, rfl⟩ := Reaches.of_done hend
  rfl

theorem of_cachedRule (hcached : repo.cached = true) (hz' : hz.Reliable) {id : Uuid}
    {found : Option Rule} (h : Reaches S hz (repo.cachedRule id) w trace (.done found) w') :
    found = w.cached id ∧ w' = w ∧ ¬ AsksStore trace := by
  obtain ⟨trace₁, text, w₁, trace₂, hlook, hend, rfl⟩ := Reaches.of_andThen_done h
  obtain ⟨rfl, rfl, hasks⟩ := of_lookUp hcached hz' hlook
  obtain ⟨rfl, hdone, rfl⟩ := Reaches.of_done hend
  cases hdone
  rw [List.append_nil]
  exact ⟨rfl, rfl, hasks⟩

theorem of_cachedRules (hcached : repo.cached = true) (hz' : hz.Reliable) :
    ∀ {ids : List Uuid} {found : List (Uuid × Option Rule)} {w w' : World σ}
      {trace : List Exchange}, Reaches S hz (repo.cachedRules ids) w trace (.done found) w' →
        found = ids.map (fun id => (id, w.cached id)) ∧ w' = w ∧ ¬ AsksStore trace
  | [], _, _, _, _, h => by
    obtain ⟨rfl, hdone, rfl⟩ := Reaches.of_done h
    cases hdone
    exact ⟨rfl, rfl, not_asksStore_nil⟩
  | id :: rest, _, _, _, _, h => by
    obtain ⟨trace₁, r, w₁, trace₂, hfirst, hrest, rfl⟩ := Reaches.of_andThen_done h
    obtain ⟨trace₃, others, w₂, trace₄, hothers, hend, rfl⟩ := Reaches.of_andThen_done hrest
    obtain ⟨rfl, rfl, hasks⟩ := of_cachedRule hcached hz' hfirst
    obtain ⟨rfl, rfl, hasks'⟩ := of_cachedRules hcached hz' hothers
    obtain ⟨rfl, hdone, rfl⟩ := Reaches.of_done hend
    cases hdone
    refine ⟨rfl, rfl, fun hall => ?_⟩
    rw [List.append_nil, asksStore_append] at hall
    exact hall.elim hasks hasks'

/-- What caching rules comes to. -/
theorem of_cacheRules (hcached : repo.cached = true) (hz' : hz.Reliable) :
    ∀ {rules : List Rule} {w w' : World σ} {trace : List Exchange} {a : Unit},
      (∀ r ∈ rules, r.id.isSome) → Reaches S hz (repo.cacheRules rules) w trace (.done a) w' →
        w'.entries listKey = w.entries listKey ∧
        ∀ id, (∃ r ∈ rules, r.id = some id ∧ w'.entries (ruleKey id) = some r.text) ∨
          (∀ r ∈ rules, r.id ≠ some id) ∧ w'.entries (ruleKey id) = w.entries (ruleKey id)
  | [], _, _, _, _, _, h => by
    obtain ⟨-, -, rfl⟩ := Reaches.of_done h
    exact ⟨rfl, fun id => .inr ⟨fun _ hr => (nomatch hr), rfl⟩⟩
  | r :: rest, w, w', _, _, hids, h => by
    obtain ⟨trace₁, ⟨⟩, w₁, trace₂, hfirst, hrest, rfl⟩ := Reaches.of_andThen_done h
    obtain ⟨id, hid⟩ := Option.isSome_iff_exists.mp (hids r (List.mem_cons_self ..))
    rw [cacheRule, hid] at hfirst
    obtain rfl := of_keep hcached hz' hfirst
    obtain ⟨hlist, hrules⟩ := of_cacheRules hcached hz'
      (fun q hq => hids q (List.mem_cons_of_mem _ hq)) hrest
    constructor
    · rw [hlist, World.entries_put_ne (ruleKey_ne_listKey id).symm]
    · intro id'
      rcases hrules id' with ⟨q, hq, hqid, hentry⟩ | ⟨hnone, hentry⟩
      · exact .inl ⟨q, List.mem_cons_of_mem _ hq, hqid, hentry⟩
      · by_cases hsame : id' = id
        · subst hsame
          refine .inl ⟨r, List.mem_cons_self .., hid, ?_⟩
          rw [hentry, World.entries_put_self]
        · refine .inr ⟨fun q hq => ?_, ?_⟩
          · rcases List.mem_cons.mp hq with rfl | hq
            · rw [hid]
              exact fun heq => hsame (Option.some.inj heq).symm
            · exact hnone q hq
          · rw [hentry, World.entries_put_ne fun heq => hsame (ruleKey_injective heq)]

/-- A read of one rule answers what is cached. If nothing is, it asks the store, and caches what
that has. -/
theorem of_byId (hcached : repo.cached = true) (hz' : hz.Reliable) {id : Uuid} {reply : RuleReply}
    (h : Reaches S hz (repo.perform (.byId id)) w trace (.done reply) w') :
    (∃ r, w.cached id = some r ∧ ¬ AsksStore trace ∧ reply = .rule (.ok (some r)) ∧ w' = w) ∨
    w.cached id = none ∧ AsksStore trace ∧
      ∀ r, (S.answer (.fetchById id) w.store).1 = .ok (some r) → r.id = some id →
        reply = .rule (.ok (some r)) ∧ w' =
          { w with store := (S.answer (.fetchById id) w.store).2 }.put (ruleKey id) r.text := by
  obtain ⟨trace₁, x, w₁, trace₂, hread, hend, rfl⟩ := Reaches.of_andThen_done h
  obtain ⟨rfl, hreply, rfl⟩ := Reaches.of_done hend
  cases hreply
  rw [List.append_nil]
  obtain ⟨trace₃, found, w₂, trace₄, hlook, hrest, rfl⟩ := Reaches.of_andThen_done hread
  obtain ⟨rfl, rfl, hasks⟩ := of_cachedRule hcached hz' hlook
  rw [asksStore_append]
  cases hfound : w₂.cached id with
  | some r =>
    rw [hfound] at hrest
    obtain ⟨rfl, hanswer, rfl⟩ := Reaches.of_done hrest
    cases hanswer
    exact .inl ⟨r, rfl, fun h => h.elim hasks not_asksStore_nil, rfl, rfl⟩
  | none =>
    rw [hfound] at hrest
    obtain ⟨w₃, y, w₄, trace₅, hfade, hstore, hkeep, rfl⟩ := Reaches.of_ask_done hrest
    obtain rfl := hfade.eq_of_reliable hz'
    obtain ⟨rfl, rfl⟩ := hstore.of_store
    refine .inr ⟨rfl, .inr asksStore_cons_store, fun r hr hid => ?_⟩
    rw [hr] at hkeep
    -- Nothing is to be matched any more: the answer was a rule.
    have hcaches : Reaches S hz ((repo.cacheRule r).andThen fun _ => .done (.ok (some r))) _ trace₅
      (.done x) w' := hkeep
    obtain ⟨trace₆, ⟨⟩, w₅, trace₇, hcache, hend, rfl⟩ := Reaches.of_andThen_done hcaches
    obtain ⟨-, hanswer, rfl⟩ := Reaches.of_done hend
    cases hanswer
    rw [cacheRule, hid] at hcache
    exact ⟨rfl, of_keep hcached hz' hcache⟩

theorem of_cachedIds (hcached : repo.cached = true) (hz' : hz.Reliable)
    {found : Option (List Uuid)} (h : Reaches S hz repo.cachedIds w trace (.done found) w') :
    found = w.cachedList ∧ w' = w ∧ ¬ AsksStore trace := by
  obtain ⟨trace₁, text, w₁, trace₂, hlook, hend, rfl⟩ := Reaches.of_andThen_done h
  obtain ⟨rfl, rfl, hasks⟩ := of_lookUp hcached hz' hlook
  obtain ⟨rfl, hdone, rfl⟩ := Reaches.of_done hend
  cases hdone
  rw [List.append_nil]
  exact ⟨rfl, rfl, hasks⟩

/-- What is missing of a list that is resolved from the cache. -/
theorem mem_missing {ids : List Uuid} {id : Uuid} :
    id ∈ missing (ids.map fun id => (id, w.cached id)) ↔ id ∈ ids ∧ w.cached id = none := by
  rw [mem_missing_iff, List.mem_map]
  constructor
  · rintro ⟨id', hid, heq⟩
    obtain ⟨rfl, hnone⟩ := Prod.ext_iff.mp heq
    exact ⟨hid, hnone⟩
  · rintro ⟨hid, hnone⟩
    exact ⟨id, hid, Prod.ext rfl hnone⟩

/-- A list is resolved without the store if all of its rules are cached. Otherwise the rest is
fetched and cached. -/
theorem of_resolveIds (hcached : repo.cached = true) (hz' : hz.Reliable) {ids : List Uuid}
    {x : Except RuleFault (List Rule)}
    (h : Reaches S hz (repo.resolveIds ids) w trace (.done x) w') :
    ((∀ id ∈ ids, w.cached id ≠ none) ∧ ¬ AsksStore trace ∧ w' = w) ∨
      ∃ absent, (∀ id, id ∈ absent ↔ id ∈ ids ∧ w.cached id = none) ∧ absent ≠ [] ∧
        AsksStore trace ∧ ∀ rules, (S.answer (.fetchByIds absent) w.store).1 = .ok rules →
          ∃ trace', Reaches S hz (repo.cacheRules rules)
            { w with store := (S.answer (.fetchByIds absent) w.store).2 } trace' (.done ()) w' := by
  obtain ⟨trace₁, found, w₁, trace₂, hlook, hrest, rfl⟩ := Reaches.of_andThen_done h
  obtain ⟨rfl, rfl, hasks⟩ := of_cachedRules hcached hz' hlook
  have hmissing : ∀ id, id ∈ missing (ids.map fun id => (id, w₁.cached id)) ↔
      id ∈ ids ∧ w₁.cached id = none := fun id => mem_missing
  -- The rest of the program is chosen by what is missing, of which only the members matter.
  generalize missing (ids.map fun id => (id, w₁.cached id)) = absent at hrest hmissing
  rw [asksStore_append]
  match absent with
  | [] =>
    obtain ⟨rfl, -, rfl⟩ := Reaches.of_done hrest
    refine .inl ⟨fun id hid hnone => ?_, fun h => h.elim hasks not_asksStore_nil, rfl⟩
    exact nomatch (hmissing id).mpr ⟨hid, hnone⟩
  | id :: others =>
    obtain ⟨w₂, x, w₃, trace₃, hfade, hstore, hkeep, rfl⟩ := Reaches.of_ask_done hrest
    obtain rfl := hfade.eq_of_reliable hz'
    obtain ⟨rfl, rfl⟩ := hstore.of_store
    refine .inr ⟨id :: others, hmissing, List.cons_ne_nil _ _, .inr asksStore_cons_store, ?_⟩
    intro rules hrules
    rw [hrules] at hkeep
    have hcaches : Reaches S hz ((repo.cacheRules rules).andThen fun _ => _) _ trace₃ _ w' := hkeep
    obtain ⟨trace₄, ⟨⟩, w₄, trace₅, hcache, hend, rfl⟩ := Reaches.of_andThen_done hcaches
    obtain ⟨-, -, rfl⟩ := Reaches.of_done hend
    exact ⟨trace₄, hcache⟩

/-- The enabled rules are resolved from the cached list. If none is cached they are listed by the
store, and cached. -/
theorem of_enabledRules (hcached : repo.cached = true) (hz' : hz.Reliable) {reply : RuleReply}
    (h : Reaches S hz (repo.perform .enabledRules) w trace (.done reply) w') :
    (∃ ids x trace', w.cachedList = some ids ∧ (AsksStore trace ↔ AsksStore trace') ∧
      Reaches S hz (repo.resolveIds ids) w trace' (.done x) w') ∨
    w.cachedList = none ∧ AsksStore trace ∧
      ∀ rules : List Rule, (S.answer .fetchEnabled w.store).1 = .ok rules →
        ∃ trace', Reaches S hz (repo.cacheRules rules)
          ({ w with store := (S.answer .fetchEnabled w.store).2 }.put listKey
            (idsText (rules.filterMap fun r : Rule => r.id))) trace' (.done ()) w' := by
  obtain ⟨trace₁, x, w₁, trace₂, hread, hend, rfl⟩ := Reaches.of_andThen_done h
  obtain ⟨rfl, -, rfl⟩ := Reaches.of_done hend
  rw [List.append_nil]
  obtain ⟨trace₃, found, w₂, trace₄, hlook, hrest, rfl⟩ := Reaches.of_andThen_done hread
  obtain ⟨rfl, rfl, hasks⟩ := of_cachedIds hcached hz' hlook
  rw [asksStore_append]
  cases hlist : w₂.cachedList with
  | some ids =>
    rw [hlist] at hrest
    obtain ⟨trace₅, y, w₃, trace₆, hresolve, hsort, rfl⟩ := Reaches.of_andThen_done hrest
    -- To put the rules in order takes no request.
    have hsorted : trace₆ = [] ∧ w' = w₃ := by
      cases y with
      | ok rules =>
        obtain ⟨rfl, -, rfl⟩ := Reaches.of_done hsort
        exact ⟨rfl, rfl⟩
      | error e =>
        obtain ⟨rfl, -, rfl⟩ := Reaches.of_done hsort
        exact ⟨rfl, rfl⟩
    obtain ⟨rfl, rfl⟩ := hsorted
    rw [List.append_nil]
    exact .inl ⟨ids, y, trace₅, rfl, or_iff_right hasks, hresolve⟩
  | none =>
    rw [hlist] at hrest
    obtain ⟨w₃, y, w₄, trace₅, hfade, hstore, hkeep, rfl⟩ := Reaches.of_ask_done hrest
    obtain rfl := hfade.eq_of_reliable hz'
    obtain ⟨rfl, rfl⟩ := hstore.of_store
    refine .inr ⟨rfl, .inr asksStore_cons_store, fun rules hrules => ?_⟩
    rw [hrules] at hkeep
    have hcaches : Reaches S hz ((repo.cacheEnabled rules).andThen fun _ => _) _ trace₅ _ w' :=
      hkeep
    obtain ⟨trace₆, ⟨⟩, w₅, trace₇, hcache, hend, rfl⟩ := Reaches.of_andThen_done hcaches
    obtain ⟨-, -, rfl⟩ := Reaches.of_done hend
    obtain ⟨trace₈, ⟨⟩, w₆, trace₉, hlist, hrules', rfl⟩ := Reaches.of_andThen_done hcache
    obtain rfl := of_keep hcached hz' hlist
    exact ⟨trace₉, hrules'⟩

/-- The enabled rules are answered without asking the store if the list and all of its rules are
cached. -/
theorem enabledRules_asksStore_iff (hcached : repo.cached = true) (hz' : hz.Reliable)
    {reply : RuleReply}
    (h : Reaches S hz (repo.perform .enabledRules) w trace (.done reply) w') {ids : List Uuid}
    (hlist : w.cachedList = some ids) :
    AsksStore trace ↔ ∃ id ∈ ids, w.cached id = none := by
  rcases of_enabledRules hcached hz' h with ⟨ids', x, trace', hlist', hsame, hresolve⟩ | ⟨hnone, -⟩
  · rw [hlist] at hlist'
    cases hlist'
    rw [hsame]
    rcases of_resolveIds hcached hz' hresolve with
      ⟨hall, hasks, -⟩ | ⟨absent, hmem, hne, hasks, -⟩
    · exact ⟨fun h => absurd h hasks, fun ⟨id, hid, hnone⟩ => absurd hnone (hall id hid)⟩
    · obtain ⟨id, hid⟩ := List.exists_mem_of_ne_nil absent hne
      exact ⟨fun _ => ⟨id, (hmem id).mp hid⟩, fun _ => hasks⟩
  · rw [hlist] at hnone
    exact nomatch hnone

/-! ## Warm entries -/

/-- That a rule was cached, and can be read in the cache if it can be read at all. -/
def Warm (w : World σ) (id : Uuid) (r : Rule) : Prop :=
  w.entries (ruleKey id) = some r.text ∨ w.cached id = some r

/-- Whether a rule that was cached can be read depends on how deep it nests. -/
theorem Warm.cached_eq_none_iff {id : Uuid} {r : Rule} (h : Warm w id r) (hr : r.Faithful) :
    w.cached id = none ↔ ¬ r.Shallow := by
  rcases h with htext | hread
  · have hread : w.cached id = Rule.read? r.text := by
      rw [World.cached, htext, Option.bind_some]
    rw [hread, Rule.read?_text hr, Rule.shallow_iff]
    by_cases hnest : r.toDocument.nesting ≤ maxNesting
    · simp [hnest]
    · simp [hnest]
  · obtain ⟨text, -, htext⟩ := Option.bind_eq_some_iff.mp hread
    simp [hread, Rule.shallow_of_read? htext]

theorem Warm.eq_of_cached {id : Uuid} {r q : Rule} (h : Warm w id r) (hr : r.Faithful)
    (hq : w.cached id = some q) : q = r := by
  rcases h with htext | hread
  · rw [World.cached, htext, Option.bind_some, Rule.read?_text hr] at hq
    split at hq
    · exact (Option.some.inj hq).symm
    · exact nomatch hq
  · exact Option.some.inj (hq.symm.trans hread)

/-- What can be read in a cache that agrees is what the store has. -/
theorem ruleWith?_of_cached (hagrees : w.Agrees S) {id : Uuid} {r : Rule}
    (h : w.cached id = some r) : ruleWith? (S.rules w.store) id = some r := by
  obtain ⟨text, htext, hread⟩ := Option.bind_eq_some_iff.mp h
  exact (hagrees _ text htext).rule id rfl r hread

/-- A rule that has been read is warm. -/
theorem warm_of_byId (havail : S.Available) (hcached : repo.cached = true) (hz' : hz.Reliable)
    (hagrees : w.Agrees S) {id : Uuid} {r : Rule} (hrule : ruleWith? (S.rules w.store) id = some r)
    {reply : RuleReply} (h : Reaches S hz (repo.perform (.byId id)) w trace (.done reply) w') :
    Warm w' id r ∧ w'.store = w.store ∧ reply = .rule (.ok (some r)) := by
  obtain ⟨a, hanswer, rfl, -⟩ := havail.exists_answer (c := .fetchById id) rfl w.store
  rcases of_byId hcached hz' h with ⟨q, hq, -, rfl, rfl⟩ | ⟨-, -, hput⟩
  · obtain rfl : r = q := Option.some.inj (hrule.symm.trans (ruleWith?_of_cached hagrees hq))
    exact ⟨.inr hq, rfl, rfl⟩
  · rw [hanswer] at hput
    obtain ⟨rfl, rfl⟩ := hput r (congrArg _ hrule) (mem_of_ruleWith? hrule).2
    exact ⟨.inl (World.entries_put_self ..), rfl, rfl⟩

/-- After a list was read, it is cached, and so are all of its rules. -/
theorem warm_of_enabledRules (havail : S.Available) (hcached : repo.cached = true)
    (hz' : hz.Reliable) (hagrees : w.Agrees S) {reply : RuleReply}
    (h : Reaches S hz (repo.perform .enabledRules) w trace (.done reply) w') :
    w'.cachedList = some (enabledIds (S.rules w.store)) ∧
      ∀ r ∈ enabledOf (S.rules w.store), ∀ id, r.id = some id → Warm w' id r := by
  have hkept := S.wellKept w.store
  have hsame : ∀ {q r : Rule} {id : Uuid}, q ∈ S.rules w.store → q.id = some id →
      r ∈ enabledOf (S.rules w.store) → r.id = some id → q = r := by
    intro q r id hq hqid hr hrid
    exact hkept.eq_of_id_eq hq (List.mem_filter.mp hr).1 (hqid.trans hrid.symm)
  have hfound : ∀ {r : Rule} {id : Uuid}, w.cached id ≠ none →
      r ∈ enabledOf (S.rules w.store) → r.id = some id → w.cached id = some r := by
    intro r id hne hr hrid
    obtain ⟨q, hq⟩ := Option.ne_none_iff_exists'.mp hne
    obtain ⟨hmem, hqid⟩ := mem_of_ruleWith? (ruleWith?_of_cached hagrees hq)
    rw [hq, hsame hmem hqid hr hrid]
  rcases of_enabledRules hcached hz' h with ⟨ids, x, trace', hlist, -, hresolve⟩ | ⟨-, -, hcaches⟩
  · obtain ⟨text, htext, hread⟩ := Option.bind_eq_some_iff.mp hlist
    obtain rfl := (hagrees _ text htext).list rfl ids hread
    rcases of_resolveIds hcached hz' hresolve with ⟨hall, -, rfl⟩ | ⟨absent, hmem, -, -, hcaches⟩
    · refine ⟨hlist, fun r hr id hid => .inr (hfound (hall id ?_) hr hid)⟩
      exact List.mem_filterMap.mpr ⟨r, hr, hid⟩
    · obtain ⟨fetched, hanswer, hfetched, -⟩ :=
        havail.exists_answer (c := .fetchByIds absent) rfl w.store
      rw [hanswer] at hcaches
      obtain ⟨trace'', hcache⟩ := hcaches fetched rfl
      obtain ⟨hlist', hrules⟩ := of_cacheRules hcached hz'
        (fun q hq => hkept.numbered q ((hfetched q).mp hq).1) hcache
      refine ⟨(congrArg (·.bind readIds?) hlist').trans hlist, fun r hr id hid => ?_⟩
      -- Either it was fetched and cached now, or it was cached before and has not been touched.
      rcases hrules id with ⟨q, hq, hqid, hentry⟩ | ⟨hnot, hentry⟩
      · obtain rfl := hsame ((hfetched q).mp hq).1 hqid hr hid
        exact .inl hentry
      · have hwarm : w.cached id ≠ none := fun hnone => by
          have habsent := (hmem id).mpr ⟨List.mem_filterMap.mpr ⟨r, hr, hid⟩, hnone⟩
          have hfetch := (hfetched r).mpr ⟨(List.mem_filter.mp hr).1, id, habsent, hid⟩
          exact hnot r hfetch hid
        exact .inr ((congrArg (·.bind Rule.read?) hentry).trans (hfound hwarm hr hid))
  · obtain ⟨listed, hanswer, rfl, -⟩ := havail.exists_answer (c := .fetchEnabled) rfl w.store
    rw [hanswer] at hcaches
    obtain ⟨trace', hcache⟩ := hcaches _ rfl
    obtain ⟨hlist, hrules⟩ := of_cacheRules hcached hz'
      (fun q hq => hkept.numbered q (List.mem_filter.mp hq).1) hcache
    refine ⟨?_, fun r hr id hid => ?_⟩
    · rw [World.entries_put_self] at hlist
      rw [World.cachedList, hlist, Option.bind_some, readIds?_idsText]
      rfl
    · rcases hrules id with ⟨q, hq, hqid, hentry⟩ | ⟨hnot, -⟩
      · obtain rfl := hsame (List.mem_filter.mp hq).1 hqid hr hid
        exact .inl hentry
      · exact absurd hid (hnot r hr)

/-- **When an accepted rule is served from the cache.** Of two reads one after the other the second
answers the same as the first, and asks the store if and only if a rule that was read is not
shallow. -/
theorem second_read_asks_iff (havail : S.Available) (hcached : repo.cached = true)
    (hz' : hz.Reliable) (hagrees : w.Agrees S) :
    (∀ {id : Uuid} {r : Rule} {trace trace' : List Exchange} {reply reply' : RuleReply}
      {w' w'' : World σ}, ruleWith? (S.rules w.store) id = some r →
      r.Accepted → r.EachValue Value.Survives →
      Reaches S hz (repo.perform (.byId id)) w trace (.done reply) w' →
      Reaches S hz (repo.perform (.byId id)) w' trace' (.done reply') w'' →
        reply = .rule (.ok (some r)) ∧ reply' = reply ∧ (AsksStore trace' ↔ ¬ r.Shallow)) ∧
    (∀ {trace trace' : List Exchange} {reply reply' : RuleReply} {w' w'' : World σ},
      (∀ r ∈ S.rules w.store, r.Accepted ∧ r.EachValue Value.Survives) →
      Reaches S hz (repo.perform .enabledRules) w trace (.done reply) w' →
      Reaches S hz (repo.perform .enabledRules) w' trace' (.done reply') w'' →
        reply' = reply ∧ (AsksStore trace' ↔ ∃ r ∈ enabledOf (S.rules w.store), ¬ r.Shallow)) := by
  constructor
  · intro id r trace trace' reply reply' w' w'' hrule haccepted hnum hfirst hsecond
    have hfaithful := haccepted.faithful hnum
    obtain ⟨hwarm, hstore, rfl⟩ := warm_of_byId havail hcached hz' hagrees hrule hfirst
    rw [← hwarm.cached_eq_none_iff hfaithful]
    refine ⟨rfl, ?_⟩
    rcases of_byId hcached hz' hsecond with ⟨q, hq, hasks, rfl, -⟩ | ⟨hnone, hasks, hput⟩
    · obtain rfl := hwarm.eq_of_cached hfaithful hq
      exact ⟨rfl, fun h => absurd h hasks, fun hnone => nomatch hq.symm.trans hnone⟩
    · obtain ⟨a, hanswer, rfl, -⟩ := havail.exists_answer (c := .fetchById id) rfl w'.store
      rw [hanswer, hstore] at hput
      obtain ⟨rfl, -⟩ := hput r (congrArg _ hrule) (mem_of_ruleWith? hrule).2
      exact ⟨rfl, fun _ => hnone, fun _ => hasks⟩
  · intro trace trace' reply reply' w' w'' hrules hfirst hsecond
    have hfaithful : ∀ r ∈ S.rules w.store, r.Faithful := fun r hr =>
      (hrules r hr).1.faithful (hrules r hr).2
    obtain ⟨hreply, hstore, hagrees'⟩ := reads_of_available havail hagrees hfaithful rfl hfirst
    have hreply' := (reads_of_available havail hagrees' (hstore ▸ hfaithful) rfl hsecond).1
    obtain ⟨hlist, hwarm⟩ := warm_of_enabledRules havail hcached hz' hagrees hfirst
    rw [hstore] at hreply'
    refine ⟨hreply'.eq hreply, ?_⟩
    rw [enabledRules_asksStore_iff hcached hz' hsecond hlist]
    have hkept := S.wellKept w.store
    constructor
    · rintro ⟨id, hid, hnone⟩
      obtain ⟨r, hr, hrid⟩ := List.mem_filterMap.mp hid
      have hmem := (List.mem_filter.mp hr).1
      exact ⟨r, hr, ((hwarm r hr id hrid).cached_eq_none_iff (hfaithful r hmem)).mp hnone⟩
    · rintro ⟨r, hr, hdeep⟩
      have hmem := (List.mem_filter.mp hr).1
      obtain ⟨id, hrid⟩ := Option.isSome_iff_exists.mp (hkept.numbered r hmem)
      refine ⟨id, List.mem_filterMap.mpr ⟨r, hr, hrid⟩, ?_⟩
      exact ((hwarm r hr id hrid).cached_eq_none_iff (hfaithful r hmem)).mpr hdeep

theorem reliable_calm : Hazards.calm.Reliable := ⟨id, id, id⟩

/-- The second read of a rule on one field does not ask the store. -/
theorem second_read_onStatus :
    ∃ trace reply w' trace' reply' w'',
      Reaches Memory.store .calm ((Repository.mk true 60 300).perform (.byId (.ofNat 1)))
        ⟨Memory.single (.onStatus "up"), fun _ => none⟩ trace (.done reply) w' ∧
      Reaches Memory.store .calm ((Repository.mk true 60 300).perform (.byId (.ofNat 1))) w' trace'
        (.done reply') w'' ∧
      reply' = reply ∧ ¬ AsksStore trace' := by
  obtain ⟨trace, reply, w', hfirst⟩ := Reaches.exists_run Memory.store .calm
    ((Repository.mk true 60 300).perform (.byId (.ofNat 1)))
    ⟨Memory.single (.onStatus "up"), fun _ => none⟩
  obtain ⟨trace', reply', w'', hsecond⟩ := Reaches.exists_run Memory.store .calm
    ((Repository.mk true 60 300).perform (.byId (.ofNat 1))) w'
  have haccepted : Rule.Accepted { Rule.onStatus "up" with id := some (.ofNat 1) } := by
    refine ⟨.plain "up" (Rule.onStatus "up").condition, .onStatus "up", ?_, rfl, rfl⟩
    apply RuleMessage.toRule_plain
    · exact ⟨trivial, Nat.le_trans (Rule.shallow_onStatus "up").1 (Nat.le_succ 126)⟩
    · trivial
  have hreads :=
    (second_read_asks_iff Memory.available_store rfl reliable_calm World.agrees_of_empty).1
      (Memory.ruleWith?_single _) haccepted (Rule.faithful_onStatus "up").survives hfirst hsecond
  refine ⟨trace, reply, w', trace', reply', w'', hfirst, hsecond, hreads.2.1, fun hasks => ?_⟩
  exact hreads.2.2.mp hasks (Rule.shallow_onStatus "up")

/-! ## The deepest condition that is accepted -/

end Repository

namespace Condition

theorem checkCondition_chain (v : Validator) (n : Nat) :
    ∀ path, v.checkCondition path (chain n) = .ok () := by
  induction n with
  | zero => exact fun _ => rfl
  | succ n ih =>
    intro path
    rw [chain, Validator.checkCondition, Validator.checkChildren, ih]
    rfl

end Condition

namespace Repository

/-- The rule with the deepest condition that is accepted. -/
def deepest : Rule := .ofCondition "deepest" (.chain 63)

theorem accepted_deepest : (RuleMessage.plain "deepest" (.chain 63)).toRule = .ok deepest ∧
    ({} : Validator).check deepest = .ok () := by
  constructor
  · apply RuleMessage.toRule_plain
    · exact ⟨Condition.eachValue_chain trivial 63, Nat.le_of_eq (Condition.nesting_chain 63)⟩
    · exact Condition.eachValue_chain trivial 63
  · have hdepth : ¬ Condition.maxDepth < deepest.condition.depth := by
      show ¬ 64 < (Condition.chain 63).depth
      rw [Condition.depth_chain]
      omega
    have hname : Text.isBlank deepest.name = false := rfl
    rw [Validator.check, hname, if_neg hdepth]
    exact Condition.checkCondition_chain {} 63 "condition"

/-- An accepted rule whose second read asks the store again. -/
theorem second_read_deepest :
    (RuleMessage.plain "deepest" (.chain 63)).toRule = .ok deepest ∧
    ({} : Validator).check deepest = .ok () ∧
    ∃ trace reply w' trace' reply' w'',
      Reaches Memory.store .calm ((Repository.mk true 60 300).perform (.byId (.ofNat 1)))
        ⟨Memory.single deepest, fun _ => none⟩ trace (.done reply) w' ∧
      Reaches Memory.store .calm ((Repository.mk true 60 300).perform (.byId (.ofNat 1))) w' trace'
        (.done reply') w'' ∧
      AsksStore trace' := by
  refine ⟨accepted_deepest.1, accepted_deepest.2, ?_⟩
  obtain ⟨trace, reply, w', hfirst⟩ := Reaches.exists_run Memory.store .calm
    ((Repository.mk true 60 300).perform (.byId (.ofNat 1))) ⟨Memory.single deepest, fun _ => none⟩
  obtain ⟨trace', reply', w'', hsecond⟩ := Reaches.exists_run Memory.store .calm
    ((Repository.mk true 60 300).perform (.byId (.ofNat 1))) w'
  refine ⟨trace, reply, w', trace', reply', w'', hfirst, hsecond, ?_⟩
  have hfaithful : Rule.Faithful { deepest with id := some (.ofNat 1) } :=
    ⟨⟨Condition.eachValue_chain trivial 63, fun _ h => nomatch h⟩,
      Condition.eachValue_chain trivial 63, fun _ h => nomatch h⟩
  have hdeep : ¬ Rule.Shallow { deepest with id := some (.ofNat 1) } := by
    rintro ⟨hnest, -⟩
    have hchain : (Condition.chain 63).toDocument.nesting ≤ 126 := hnest
    rw [Condition.nesting_chain] at hchain
    omega
  obtain ⟨hwarm, -⟩ := warm_of_byId Memory.available_store rfl reliable_calm World.agrees_of_empty
    (Memory.ruleWith?_single _) hfirst
  have hnone := (hwarm.cached_eq_none_iff hfaithful).mpr hdeep
  rcases of_byId rfl reliable_calm hsecond with ⟨q, hq, -⟩ | ⟨-, hasks, -⟩
  · exact nomatch hq.symm.trans hnone
  · exact hasks

end Repository

end AlertRules
