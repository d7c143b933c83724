import AlertRules.Proofs.Engine.Turns
import AlertRules.Proofs.Repository.Listing

/-!
# Resolving a cached list

Where the cache has a list of identifiers, the enabled rules are put together from two sources: what
the lookup of each listed rule gave, and one fetch of all the rest. What they come to is said here
exactly, for any cache and any store: for each identifier the rule that was read in the cache, or
else the one the store has, in the order of the list, and that sorted.

Nothing vanishes meanwhile, so a lookup gives what is there or fails (`World.MayAnswer`), and each
rule is looked up once. How a run went is then said by what its lookups gave (`lookups`) and by what
it asked the store (`storeCalls`).

> `listed_rules_resolved`: under every pattern of failing lookups of rules, and whichever sets fail,
> there is this one answer, and the store is asked for the rules that were not read in the cache,
> once and for nothing else. Only the keys of those are written. If all that can be read in the
> cache is as in the store, the answer does not depend on what is there.
-/

namespace AlertRules

open Repository

variable {σ : Type} {S : RuleStore σ} {hz : Hazards} {w w₁ w' : World σ}

/-- Gets and sets may fail, and nothing else goes wrong. -/
def Hazards.failingGetsAndSets : Hazards := ⟨False, fun op => op ≠ .delete⟩

theorem World.Step.mayAnswer {key : String} {x : Except RuleFault (Option String)}
    (h : w.Step S hz (.cache (.get key)) x w') : w' = w ∧ w.MayAnswer hz key x := by
  cases h with
  | get => exact ⟨rfl, .inl rfl⟩
  | getFails hfails => exact ⟨rfl, .inr ⟨hfails, _, rfl⟩⟩

namespace Repository

variable {repo : Repository} {trace : List Exchange} {ids : List Uuid} {rules : List Rule}
  {answers : Uuid → Except RuleFault (Option String)}

/-! ## Lookups -/

/-- A lookup asks the cache once, and the store never. -/
theorem of_lookUp_steady (hcached : repo.cached = true) (hsteady : ¬ hz.expiry) {kind key : String}
    {text : Option String} (h : Reaches S hz (repo.lookUp kind key) w trace (.done text) w') :
    ∃ x, w.MayAnswer hz key x ∧ text = foundIn x ∧ w' = w ∧ lookups trace = [(key, x)] ∧
      storeCalls trace = [] := by
  rw [lookUp_eq hcached] at h
  obtain ⟨w₁, x, w₂, trace₁, hfade, hget, hnote, rfl⟩ := Reaches.of_ask_done h
  obtain rfl := hfade.eq_of_steady hsteady
  obtain ⟨rfl, hanswer⟩ := hget.mayAnswer
  obtain ⟨w₃, y, w₄, trace₂, hfade', hobserve, hend, rfl⟩ := Reaches.of_ask_done hnote
  obtain rfl := hfade'.eq_of_steady hsteady
  obtain rfl := hobserve.of_observe
  obtain ⟨rfl, hdone, rfl⟩ := Reaches.of_done hend
  cases hdone
  exact ⟨x, hanswer, rfl, rfl, rfl, rfl⟩

/-- What is read in a text that is looked up is read in what the lookup gives. -/
theorem of_read_steady {α : Type} {read : String → Option α} (hcached : repo.cached = true)
    (hsteady : ¬ hz.expiry) {kind key : String} {found : Option α}
    (h : Reaches S hz ((repo.lookUp kind key).andThen fun text => .done (text.bind read)) w trace
      (.done found) w') :
    ∃ x, w.MayAnswer hz key x ∧ found = (foundIn x).bind read ∧ w' = w ∧
      lookups trace = [(key, x)] ∧ storeCalls trace = [] := by
  obtain ⟨trace₁, text, w₁, trace₂, hlook, hend, rfl⟩ := Reaches.of_andThen_done h
  obtain ⟨rfl, hdone, rfl⟩ := Reaches.of_done hend
  cases hdone
  obtain ⟨x, hanswer, rfl, rfl, hlookups, hstore⟩ := of_lookUp_steady hcached hsteady hlook
  rw [List.append_nil]
  exact ⟨x, hanswer, rfl, rfl, hlookups, hstore⟩

/-- Each of the rules is looked up once, in order. -/
theorem of_cachedRules_steady (hcached : repo.cached = true) (hsteady : ¬ hz.expiry) :
    ∀ {ids : List Uuid} {found : List (Uuid × Option Rule)} {w w' : World σ}
      {trace : List Exchange},
      ids.Nodup → Reaches S hz (repo.cachedRules ids) w trace (.done found) w' →
        ∃ answers, (∀ id, w.MayAnswer hz (ruleKey id) (answers id)) ∧
          found = ids.map (fun id => (id, served answers id)) ∧ w' = w ∧
          lookups trace = ids.map (fun id => (ruleKey id, answers id)) ∧ storeCalls trace = []
  | [], _, _, w, _, _, h => by
    obtain ⟨rfl, hdone, rfl⟩ := Reaches.of_done h
    cases hdone
    exact ⟨fun id => .ok (w.entries (ruleKey id)), fun _ => .inl rfl, rfl, rfl, rfl, rfl⟩
  | first :: rest, _, w, _, _, hnodup, h => by
    obtain ⟨trace₁, c, w₁, trace₂, hfirst, hmore, rfl⟩ := Reaches.of_andThen_done h
    obtain ⟨trace₃, others, w₂, trace₄, hothers, hend, rfl⟩ := Reaches.of_andThen_done hmore
    obtain ⟨rfl, hdone, rfl⟩ := Reaches.of_done hend
    cases hdone
    obtain ⟨hnot, hrest⟩ := List.nodup_cons.mp hnodup
    obtain ⟨x, hx, rfl, rfl, hlookups, hstore⟩ := of_read_steady hcached hsteady hfirst
    obtain ⟨answers, hanswers, rfl, rfl, hlookups', hstore'⟩ :=
      of_cachedRules_steady hcached hsteady hrest hothers
    -- The first is not among the others, so its answer may be put beside theirs.
    have hbeside : ∀ id ∈ rest, Function.update answers first x id = answers id := by
      intro id hid
      have hne : id ≠ first := fun heq => hnot (heq ▸ hid)
      exact Function.update_of_ne hne x answers
    refine ⟨Function.update answers first x, ?_, ?_, rfl, ?_, ?_⟩
    · intro id
      by_cases hid : id = first
      · subst hid
        rw [Function.update_self]
        exact hx
      · rw [Function.update_of_ne hid]
        exact hanswers id
    · rw [List.map_cons, served, Function.update_self, List.cons.injEq]
      refine ⟨rfl, List.map_congr_left fun id hid => ?_⟩
      rw [served, served, hbeside id hid]
    · rw [lookups_append, lookups_append, hlookups, hlookups', List.map_cons, Function.update_self]
      refine congrArg _ ((List.append_nil _).trans (List.map_congr_left fun id hid => ?_))
      rw [hbeside id hid]
    · rw [storeCalls_append, storeCalls_append, hstore, hstore']
      rfl

/-! ## Putting the list together -/

/-- What was not served of a list, in its order. -/
def unserved (answers : Uuid → Except RuleFault (Option String)) (ids : List Uuid) : List Uuid :=
  ids.filter fun id => (served answers id).isNone

theorem mem_unserved_iff {id : Uuid} : id ∈ unserved answers ids ↔
    id ∈ ids ∧ served answers id = none := by
  rw [unserved, List.mem_filter, Option.isNone_iff_eq_none]

theorem missing_map (answers : Uuid → Except RuleFault (Option String)) (ids : List Uuid) :
    missing (ids.map fun id => (id, served answers id)) = unserved answers ids := by
  unfold missing unserved
  induction ids with
  | nil => rfl
  | cons id rest ih =>
    rw [List.map_cons, List.filterMap_cons, List.filter_cons, ih]
    cases hserved : served answers id with
    | none => simp
    | some r => simp

/-- The list is put together of the rules that were served and those that were fetched for the
rest. -/
theorem assemble_served (hnodup : ids.Nodup) {fetched : List Rule}
    (hfetched : ∀ id ∈ ids, served answers id = none → fetched? fetched id = ruleWith? rules id) :
    assemble (ids.map fun id => (id, served answers id)) fetched =
      ids.filterMap fun id => served answers id <|> ruleWith? rules id := by
  have hids : (ids.map fun id => (id, served answers id)).map Prod.fst = ids := by
    rw [List.map_map]
    exact List.map_id ids
  rw [assemble_eq (hids.symm ▸ hnodup), List.filterMap_map]
  apply List.filterMap_congr
  intro id hid
  show (served answers id <|> fetched? fetched id) = _
  cases hserved : served answers id with
  | some r => rfl
  | none => exact hfetched id hid hserved

theorem of_keep_steady (hsteady : ¬ hz.expiry) {key text : String} {ttl : Nat} {a : Unit}
    (h : Reaches S hz (repo.keep key text ttl) w trace (.done a) w') :
    (w' = w ∨ w' = w.put key text) ∧ lookups trace = [] ∧ storeCalls trace = [] := by
  unfold keep at h
  split at h
  next =>
    obtain ⟨w₁, x, w₂, trace₁, hfade, hset, hend, rfl⟩ := Reaches.of_ask_done h
    obtain rfl := hfade.eq_of_steady hsteady
    obtain ⟨rfl, -, rfl⟩ := Reaches.of_done hend
    cases hset with
    | set => exact ⟨.inr rfl, rfl, rfl⟩
    | setFails _ hw' => exact ⟨hw', rfl, rfl⟩
  next =>
    obtain ⟨rfl, -, rfl⟩ := Reaches.of_done h
    exact ⟨.inl rfl, rfl, rfl⟩

theorem of_cacheRule_steady (hsteady : ¬ hz.expiry) {r : Rule} {a : Unit}
    (h : Reaches S hz (repo.cacheRule r) w trace (.done a) w') :
    (w' = w ∨ ∃ id, r.id = some id ∧ w' = w.put (ruleKey id) r.text) ∧ lookups trace = [] ∧
      storeCalls trace = [] := by
  unfold cacheRule at h
  split at h
  next =>
    obtain ⟨rfl, -, rfl⟩ := Reaches.of_done h
    exact ⟨.inl rfl, rfl, rfl⟩
  next id hid =>
    obtain ⟨hput, hquiet⟩ := of_keep_steady hsteady h
    exact ⟨hput.imp_right fun hput => ⟨id, hid, hput⟩, hquiet⟩

/-- Caching rules writes under their keys only, and asks for nothing. -/
theorem of_cacheRules_steady (hsteady : ¬ hz.expiry) :
    ∀ {rules : List Rule} {w w' : World σ} {trace : List Exchange} {a : Unit},
      Reaches S hz (repo.cacheRules rules) w trace (.done a) w' →
        (∀ key, w'.entries key ≠ w.entries key → ∃ r ∈ rules, ∃ id,
          r.id = some id ∧ key = ruleKey id ∧ w'.entries key = some r.text) ∧
        w'.store = w.store ∧ lookups trace = [] ∧ storeCalls trace = []
  | [], _, _, _, _, h => by
    obtain ⟨rfl, -, rfl⟩ := Reaches.of_done h
    exact ⟨fun key hne => absurd rfl hne, rfl, rfl, rfl⟩
  | r :: rest, w, w', _, _, h => by
    obtain ⟨trace₁, ⟨⟩, w₁, trace₂, hfirst, hrest, rfl⟩ := Reaches.of_andThen_done h
    obtain ⟨hentries, hstore, hlookups, hcalls⟩ := of_cacheRules_steady hsteady hrest
    obtain ⟨hput, hlookups₁, hcalls₁⟩ := of_cacheRule_steady hsteady hfirst
    rw [lookups_append, storeCalls_append, hlookups, hlookups₁, hcalls, hcalls₁]
    refine ⟨?_, ?_, rfl, rfl⟩
    · intro key hne
      by_cases hlater : w'.entries key = w₁.entries key
      · -- What was written is still there, so it was the first rule.
        rw [hlater] at hne ⊢
        rcases hput with rfl | ⟨id, hid, rfl⟩
        · exact absurd rfl hne
        · by_cases hkey : key = ruleKey id
          · subst hkey
            exact ⟨r, List.mem_cons_self .., id, hid, rfl, World.entries_put_self ..⟩
          · exact absurd (World.entries_put_ne hkey) hne
      · obtain ⟨q, hq, id, hid, hkey, htext⟩ := hentries key hlater
        exact ⟨q, List.mem_cons_of_mem _ hq, id, hid, hkey, htext⟩
    · rw [hstore]
      rcases hput with rfl | ⟨id, -, rfl⟩
      · rfl
      · rfl

/-! ## The answer -/

/-- What the store is asked to complete a list: nothing if all rules were served, or else the
others. -/
def callsFor (answers : Uuid → Except RuleFault (Option String)) (ids : List Uuid) :
    List StoreCall :=
  if unserved answers ids = [] then [] else [.fetchByIds (unserved answers ids)]

/-- That a run has put a list together from what was served, what the store has, and nothing else,
and has left only such rules in the cache as were not served. -/
structure Resolved (S : RuleStore σ) (w w' : World σ) (ids : List Uuid)
    (answers : Uuid → Except RuleFault (Option String)) (trace : List Exchange)
    (found : List Rule) : Prop where
  found_eq : found = ids.filterMap fun id => served answers id <|> ruleWith? (S.rules w.store) id
  calls_eq : storeCalls trace = callsFor answers ids
  store_eq : w'.store = w.store
  written : ∀ key, w'.entries key ≠ w.entries key → ∃ id ∈ ids, served answers id = none ∧
    ∃ r, ruleWith? (S.rules w.store) id = some r ∧ key = ruleKey id ∧ w'.entries key = some r.text

/-- If all rules were served, there is nothing to ask. -/
theorem resolved_of_served (hnodup : ids.Nodup) (hnone : unserved answers ids = []) :
    Resolved S w w ids answers [] (assemble (ids.map fun id => (id, served answers id)) []) := by
  have hall : ∀ id ∈ ids, served answers id ≠ none := by
    intro id hid hserved
    have hmem := mem_unserved_iff.mpr ⟨hid, hserved⟩
    rw [hnone] at hmem
    exact nomatch hmem
  refine ⟨?_, (if_pos hnone).symm, rfl, fun key hne => absurd rfl hne⟩
  exact assemble_served hnodup fun id hid hserved => absurd hserved (hall id hid)

/-- Otherwise the rest is fetched at once, cached, and put in its place. -/
theorem resolved_of_fetched (hsteady : ¬ hz.expiry) (hnodup : ids.Nodup)
    (hsome : unserved answers ids ≠ []) {fetched : List Rule} {x : Except RuleFault (List Rule)}
    (hfetched : ∀ r, r ∈ fetched ↔ r ∈ S.rules w.store ∧ ∃ id ∈ unserved answers ids,
      r.id = some id)
    (hcache : Reaches S hz (repo.cacheRules fetched) w trace (.done ()) w') :
    Resolved S w w' ids answers (⟨.store (.fetchByIds (unserved answers ids)), x⟩ :: trace)
      (assemble (ids.map fun id => (id, served answers id)) fetched) := by
  have hkept := S.wellKept w.store
  obtain ⟨hwritten, hstore, -, hcalls⟩ := of_cacheRules_steady hsteady hcache
  refine ⟨?_, ?_, hstore, fun key hne => ?_⟩
  · exact assemble_served hnodup fun id hid hserved =>
      fetched?_eq hkept hfetched (mem_unserved_iff.mpr ⟨hid, hserved⟩)
  · rw [callsFor, if_neg hsome]
    show StoreCall.fetchByIds (unserved answers ids) :: storeCalls trace = _
    rw [hcalls]
  · -- Only what was fetched is written, so it is in the store, under an identifier that was not
    -- served.
    obtain ⟨r, hr, id, hid, hkey, htext⟩ := hwritten key hne
    obtain ⟨hmem, id', hid', hrid⟩ := (hfetched r).mp hr
    obtain rfl : id' = id := Option.some.inj (hrid.symm.trans hid)
    obtain ⟨hlisted, hserved⟩ := mem_unserved_iff.mp hid'
    exact ⟨id', hlisted, hserved, r, hkept.ruleWith?_eq_some_iff.mpr ⟨hmem, hid⟩, hkey, htext⟩

theorem of_complete_steady (havail : S.Available) (hsteady : ¬ hz.expiry) (hnodup : ids.Nodup)
    {x : Except RuleFault (List Rule)}
    (h : Reaches S hz (repo.complete (ids.map fun id => (id, served answers id))) w trace
      (.done x) w') :
    lookups trace = [] ∧ ∃ found, x = .ok found ∧ Resolved S w w' ids answers trace found := by
  unfold complete at h
  rw [missing_map] at h
  by_cases hnone : unserved answers ids = []
  · rw [if_pos hnone] at h
    obtain ⟨rfl, hdone, rfl⟩ := Reaches.of_done h
    cases hdone
    exact ⟨rfl, _, rfl, resolved_of_served hnodup hnone⟩
  · rw [if_neg hnone] at h
    obtain ⟨fetched, hanswer, hfetched, -⟩ :=
      havail.exists_answer (c := .fetchByIds (unserved answers ids)) rfl w.store
    obtain ⟨w₁, y, w₂, trace₁, hfade, hfetch, hrest, rfl⟩ := Reaches.of_ask_done h
    obtain rfl := hfade.eq_of_steady hsteady
    obtain ⟨rfl, rfl⟩ := hfetch.of_store
    rw [hanswer] at hrest
    change Reaches S hz ((repo.cacheRules fetched).andThen _) w₁ _ _ _ at hrest
    obtain ⟨trace₂, ⟨⟩, w₃, trace₃, hcache, hend, rfl⟩ := Reaches.of_andThen_done hrest
    obtain ⟨rfl, hdone, rfl⟩ := Reaches.of_done hend
    cases hdone
    obtain ⟨-, -, hlookups, -⟩ := of_cacheRules_steady hsteady hcache
    rw [List.append_nil]
    exact ⟨hlookups, _, rfl, resolved_of_fetched hsteady hnodup hnone hfetched hcache⟩

/-- A listing that has looked up a list resolves it. -/
theorem of_enabledRules_steady (havail : S.Available) (hcached : repo.cached = true)
    (hsteady : ¬ hz.expiry) (hlist : w.cachedList = some ids) (hnodup : ids.Nodup)
    {x : Except RuleFault (List Rule)}
    (h : Reaches S hz repo.enabledRules w trace (.done x) w')
    (hfound : ∀ f, (listKey, .error f) ∉ lookups trace) :
    ∃ answers, (∀ id, w.MayAnswer hz (ruleKey id) (answers id)) ∧
      lookups trace = (listKey, .ok (w.entries listKey)) ::
        ids.map (fun id => (ruleKey id, answers id)) ∧
      ∃ found, x = .ok (Rule.sortByPriority found) ∧ Resolved S w w' ids answers trace found := by
  obtain ⟨trace₁, list, w₁, trace₂, hlook, hrest, rfl⟩ := Reaches.of_andThen_done h
  obtain ⟨y, hanswer, rfl, rfl, hlookups₁, hcalls₁⟩ := of_read_steady hcached hsteady hlook
  rw [lookups_append, hlookups₁] at hfound ⊢
  rcases hanswer with rfl | ⟨-, f, rfl⟩
  · have hread : (foundIn (.ok (w₁.entries listKey))).bind readIds? = some ids := hlist
    rw [hread] at hrest
    obtain ⟨trace₃, z, w₂, trace₄, hresolve, hsort, rfl⟩ := Reaches.of_andThen_done hrest
    rw [resolveIds_eq] at hresolve
    obtain ⟨trace₅, found, w₃, trace₆, hrules, hcomplete, rfl⟩ := Reaches.of_andThen_done hresolve
    obtain ⟨answers, hanswers, rfl, rfl, hlookups₂, hcalls₂⟩ :=
      of_cachedRules_steady hcached hsteady hnodup hrules
    obtain ⟨hlookups₃, found, rfl, hresolved⟩ := of_complete_steady havail hsteady hnodup hcomplete
    obtain ⟨rfl, hdone, rfl⟩ := Reaches.of_done hsort
    cases hdone
    refine ⟨answers, hanswers, ?_, found, rfl, hresolved.found_eq, ?_, hresolved.store_eq,
      hresolved.written⟩
    · rw [lookups_append, lookups_append, hlookups₂, hlookups₃, List.append_nil]
      exact congrArg _ (List.append_nil _)
    · rw [storeCalls_append, storeCalls_append, storeCalls_append, hcalls₁, hcalls₂,
        hresolved.calls_eq]
      exact List.append_nil _
  · exact absurd (List.mem_append_left _ (List.mem_singleton.mpr rfl)) (hfound f)

/-- Whatever may come of the lookups of the rules, it does in some run. -/
theorem exists_enabledRules_steady (havail : S.Available) (hcached : repo.cached = true)
    (hsteady : ¬ hz.expiry) (hlist : w.cachedList = some ids) (hnodup : ids.Nodup)
    (hanswers : ∀ id, w.MayAnswer hz (ruleKey id) (answers id)) :
    ∃ trace x w', Reaches S hz repo.enabledRules w trace (.done x) w' ∧
      lookups trace = (listKey, .ok (w.entries listKey)) :: ids.map fun id =>
        (ruleKey id, answers id) := by
  have hlook := reaches_lookUp (S := S) hcached "enabled_list" (.inl rfl : w.MayAnswer hz listKey _)
  have hread := hlook.andThen fun text => (.done (text.bind readIds?) : Work (Option (List Uuid)))
  change Reaches S hz repo.cachedIds w _ (.done w.cachedList) w at hread
  rw [hlist] at hread
  obtain ⟨trace₁, hrules, hlookups₁⟩ := exists_cachedRules S hcached ids hanswers
  obtain ⟨trace₂, x, w', hcomplete⟩ :=
    Reaches.exists_run S hz (repo.complete (ids.map fun id => (id, served answers id))) w
  obtain ⟨hlookups₂, found, rfl, -⟩ := of_complete_steady havail hsteady hnodup hcomplete
  have hresolve : Reaches S hz (repo.resolveIds ids) w (trace₁ ++ trace₂) (.done (.ok found))
      w' := by
    rw [resolveIds_eq]
    exact (hrules.andThen _).trans hcomplete
  refine ⟨_, _, w', (hread.andThen _).trans ((hresolve.andThen _).trans (.refl _ _)), ?_⟩
  rw [lookups_append, lookups_append, lookups_append, hlookups₁, hlookups₂, List.append_nil]
  exact congrArg _ (List.append_nil _)

/-- What is read in the cache makes no difference if it is as in the store. -/
theorem filterMap_served (hanswers : ∀ id, w.MayAnswer hz (ruleKey id) (answers id))
    (hfaithful : ∀ id ∈ ids, ∀ r, w.cached id = some r → ruleWith? rules id = some r) :
    (ids.filterMap fun id => served answers id <|> ruleWith? rules id) =
      ids.filterMap (ruleWith? rules) := by
  apply List.filterMap_congr
  intro id hid
  cases hserved : served answers id with
  | none => rfl
  | some r =>
    rcases hanswers id with hok | ⟨-, f, herror⟩
    · rw [served, hok] at hserved
      exact (hfaithful id hid r hserved).symm
    · rw [served, herror] at hserved
      exact nomatch hserved

/-- **How a cached list is resolved.** Let the cache have a list on which no identifier stands
twice. In a listing that gets it, each of the rules is looked up once, in order. What is listed are
the rules that were read, and for the others those of the store, in the order of the list where
priorities are equal. The store is asked for those others at once, if there are any, and for nothing
else; and only under their keys is anything written. If what can be read in the cache is as in the
store, the answer depends on the list and the store alone.

Whatever the lookups of the rules may come to, there is such a run. -/
theorem listed_rules_resolved (havail : S.Available) (hcached : repo.cached = true)
    (hsteady : ¬ hz.expiry) (hlist : w.cachedList = some ids) (hnodup : ids.Nodup) :
    (∀ trace x w', Reaches S hz repo.enabledRules w trace (.done x) w' →
      (∀ f, (listKey, .error f) ∉ lookups trace) →
        ∃ answers found listed, (∀ id, w.MayAnswer hz (ruleKey id) (answers id)) ∧
          lookups trace = (listKey, .ok (w.entries listKey)) ::
            ids.map (fun id => (ruleKey id, answers id)) ∧
          Resolved S w w' ids answers trace found ∧ x = .ok listed ∧
          Rule.Ascending listed ∧ (∀ p, Rule.level p listed = Rule.level p found) ∧
          ((∀ id ∈ ids, ∀ r, w.cached id = some r → ruleWith? (S.rules w.store) id = some r) →
            listed = Rule.sortByPriority (ids.filterMap (ruleWith? (S.rules w.store))))) ∧
    ∀ answers : Uuid → Except RuleFault (Option String),
      (∀ id, w.MayAnswer hz (ruleKey id) (answers id)) →
      ∃ trace x w', Reaches S hz repo.enabledRules w trace (.done x) w' ∧
        lookups trace = (listKey, .ok (w.entries listKey)) :: ids.map fun id =>
          (ruleKey id, answers id) := by
  constructor
  · intro trace x w' hrun hfound
    obtain ⟨answers, hanswers, hlookups, found, rfl, hresolved⟩ :=
      of_enabledRules_steady havail hcached hsteady hlist hnodup hrun hfound
    have hascending := Rule.ascending_sortByPriority found
    refine ⟨answers, found, _, hanswers, hlookups, hresolved, rfl, hascending, fun p => ?_,
      fun hfaithful => ?_⟩
    · exact Rule.level_sortByPriority found
    · rw [hresolved.found_eq, filterMap_served hanswers hfaithful]
  · intro answers hanswers
    exact exists_enabledRules_steady havail hcached hsteady hlist hnodup hanswers

/-- A rule that is in the cache only. -/
def setAside : Rule := { Rule.onStatus "down" with id := some (.ofNat 2) }

theorem read?_setAside : Rule.read? setAside.text = some setAside :=
  Rule.read?_onStatus "down" (some (.ofNat 2))

/-- A list of two rules. One is in the cache, and the other in the store. -/
def halfCached : World { m : Memory // m.InOrder } :=
  (World.put ⟨Memory.single (.onStatus "up"), fun _ => none⟩ listKey
    (idsText [.ofNat 2, .ofNat 1])).put (ruleKey (.ofNat 2)) setAside.text

/-- Gets and sets may fail. Of the two lookups one fails, and one finds the rule. They are equal in
priority, so they are listed as they stand on the list, and the store is asked for one. -/
theorem listed_rules_resolved_pair :
    ∃ trace w', Reaches Memory.store .failingGetsAndSets (Repository.mk true 60 300).enabledRules
      halfCached trace (.done (.ok [setAside, { Rule.onStatus "up" with id := some (.ofNat 1) }]))
        w' ∧
      storeCalls trace = [.fetchByIds [.ofNat 1]] := by
  have hne : (Uuid.ofNat 1) ≠ .ofNat 2 := by decide
  have hlist : halfCached.cachedList = some [.ofNat 2, .ofNat 1] := by
    rw [World.cachedList, halfCached, World.entries_put_ne (ruleKey_ne_listKey _).symm,
      World.entries_put_self, Option.bind_some, readIds?_idsText]
  have hentry : halfCached.entries (ruleKey (.ofNat 2)) = some setAside.text :=
    World.entries_put_self ..
  have hnodup : [Uuid.ofNat 2, .ofNat 1].Nodup := by decide
  have hcached : (Repository.mk true 60 300).cached = true := rfl
  have hsteady : ¬ Hazards.failingGetsAndSets.expiry := id
  obtain ⟨hall, hexists⟩ :=
    listed_rules_resolved Memory.available_store hcached hsteady hlist hnodup
  -- The lookup of the first rule finds it, and any other fails.
  obtain ⟨trace, x, w', hrun, hlookups⟩ := hexists
    (fun id => if id = .ofNat 2 then .ok (some setAside.text) else .error .storeUnavailable) (by
      intro id
      by_cases hid : id = .ofNat 2
      · subst hid
        exact .inl ((if_pos rfl).trans (congrArg _ hentry.symm))
      · exact .inr ⟨CacheOperation.noConfusion, _, if_neg hid⟩)
  have hfound : ∀ f, (listKey, .error f) ∉ lookups trace := by
    rw [hlookups]
    simp [(ruleKey_ne_listKey _).symm]
  obtain ⟨answers, found, listed, -, hlookups', hresolved, rfl, hascending, hlevels, -⟩ :=
    hall trace x w' hrun hfound
  have hanswers := hlookups.symm.trans hlookups'
  simp only [List.map_cons, List.map_nil, List.cons.injEq, Prod.mk.injEq, true_and,
    and_true, if_pos, if_neg hne] at hanswers
  obtain ⟨hsecond, hfirst⟩ := hanswers
  have hserved : served answers (.ofNat 2) = some setAside := by
    rw [served, ← hsecond, foundIn, Option.bind_some, read?_setAside]
  have hmissed : served answers (.ofNat 1) = none := by
    rw [served, ← hfirst]
    rfl
  have hlisted : listed = [setAside, { Rule.onStatus "up" with id := some (.ofNat 1) }] := by
    have hstored := Memory.ruleWith?_single (.onStatus "up")
    have hpair : found = [setAside, { Rule.onStatus "up" with id := some (.ofNat 1) }] := by
      rw [hresolved.found_eq, List.filterMap_cons, List.filterMap_cons, hserved, hmissed]
      exact congrArg (fun o : Option Rule => setAside :: o.toList) hstored
    subst hpair
    exact Rule.eq_of_levels hascending (List.pairwise_pair.mpr (UInt32.le_refl _)) hlevels
  subst hlisted
  have hunserved : unserved answers [.ofNat 2, .ofNat 1] = [.ofNat 1] := by
    rw [unserved, List.filter_cons, List.filter_cons, hserved, hmissed]
    rfl
  refine ⟨trace, w', hrun, ?_⟩
  rw [hresolved.calls_eq, callsFor, hunserved, if_neg (List.cons_ne_nil _ _)]

end Repository

end AlertRules
