import AlertRules.Proofs.Repository.Approval
import AlertRules.Proofs.Repository.Slot
import AlertRules.Proofs.Repository.Transparency
import AlertRules.Proofs.Repository.Warming

/-!
# What is listed as enabled

The enabled rules are found through a cached list of identifiers, and each of them through an entry
of its own or in the store. Only the store looks at whether a rule is enabled, and only when there
is no list. So a list that is out of date makes a disabled rule appear: the rule under a listed
identifier is taken as it is, from the cache or from the store (`World.MayShow`).

The runs here are under any hazards. What a lookup may come to is said in `of_lookUp_fading`, and
that it does in `exists_lookUp_found` and `exists_lookUp_missed`. A list is out of date only if a
deletion has failed: as long as none has, all entries are right on what is enabled (`FlagFits`,
`flagsFit_of_performAll`). That is less than that they fit, and so it needs no assumption on the
numbers in rules.

> `listing_enabled_iff`: after any operations the next listing shows enabled rules only, in all of
> its runs, if and only if every rule that may be shown under a listed identifier is enabled. So it
> is if no deletion has failed.

`disabled_rule_listed` has a run in which one deletion fails, and then a disabled rule is listed.
-/

namespace AlertRules

open Repository

variable {σ : Type} {S : RuleStore σ} {hz : Hazards} {w w₁ w' : World σ} {id : Uuid} {r : Rule}

/-! ## What may be shown -/

namespace World

/-- That the lookup of a rule may find nothing that can be read. -/
def MayMiss (hz : Hazards) (w : World σ) (id : Uuid) : Prop :=
  w.cached id = none ∨ hz.expiry ∨ hz.fails .get

/-- That a rule may be shown under an identifier: it is cached, or nothing may be found in the cache
and the store has it. -/
def MayShow (S : RuleStore σ) (hz : Hazards) (w : World σ) (id : Uuid) (r : Rule) : Prop :=
  w.cached id = some r ∨ w.MayMiss hz id ∧ ruleWith? (S.rules w.store) id = some r

/-- What a lookup may come to while nothing vanishes: what is there under the key, or a failure. -/
def MayAnswer (hz : Hazards) (w : World σ) (key : String)
    (x : Except RuleFault (Option String)) : Prop :=
  x = .ok (w.entries key) ∨ hz.fails .get ∧ ∃ f, x = .error f

theorem MayAnswer.step {key : String} {x : Except RuleFault (Option String)}
    (h : w.MayAnswer hz key x) : w.Step S hz (.cache (.get key)) x w := by
  rcases h with rfl | ⟨hfails, f, rfl⟩
  · exact .get
  · exact .getFails hfails

theorem Fades.cached (h : w.Fades hz w₁) (hr : w₁.cached id = some r) : w.cached id = some r := by
  obtain ⟨text, htext, hread⟩ := Option.bind_eq_some_iff.mp hr
  rw [World.cached, h.entries htext]
  exact hread

theorem Fades.mayMiss (h : w.Fades hz w₁) (hmiss : w₁.MayMiss hz id) : w.MayMiss hz id := by
  rcases h with rfl | ⟨hexpiry, -, -⟩
  · exact hmiss
  · exact .inr (.inl hexpiry)

/-- What may be shown after entries have vanished may be shown before, when they may vanish. -/
theorem Fades.mayShow (h : w.Fades hz w₁) (hshow : w₁.MayShow S hz id r) : w.MayShow S hz id r := by
  rcases hshow with hcached | ⟨hmiss, hstore⟩
  · exact .inl (h.cached hcached)
  · exact .inr ⟨h.mayMiss hmiss, h.store_eq ▸ hstore⟩

end World

/-- The rule that is read in what a lookup gave. -/
def served (answers : Uuid → Except RuleFault (Option String)) (id : Uuid) : Option Rule :=
  (foundIn (answers id)).bind Rule.read?

namespace Repository

variable {repo : Repository} {trace : List Exchange} {ids : List Uuid}

/-! ## What a listing shows -/

/-- A lookup comes to what is there, or to nothing if something may go wrong. -/
theorem of_lookUp_fading (hcached : repo.cached = true) {kind key : String} {text : Option String}
    (h : Reaches S hz (repo.lookUp kind key) w trace (.done text) w') :
    w.Fades hz w' ∧ (text = w.entries key ∨ text = none ∧ (hz.expiry ∨ hz.fails .get)) := by
  rw [lookUp_eq hcached] at h
  obtain ⟨w₁, x, w₂, trace₁, hfade, hget, hnote, rfl⟩ := Reaches.of_ask_done h
  obtain ⟨w₃, y, w₄, trace₂, hfade', hobserve, hend, rfl⟩ := Reaches.of_ask_done hnote
  obtain rfl := hobserve.of_observe
  obtain ⟨rfl, hdone, rfl⟩ := Reaches.of_done hend
  cases hdone
  cases hget with
  | get =>
    refine ⟨hfade.trans hfade', ?_⟩
    rcases hfade with rfl | ⟨hexpiry, -, hentries⟩
    · exact .inl rfl
    · exact (hentries key).imp_right fun hnone => ⟨hnone, .inl hexpiry⟩
  | getFails hfails => exact ⟨hfade.trans hfade', .inr ⟨rfl, .inr hfails⟩⟩

theorem of_cachedIds_fading (hcached : repo.cached = true) {found : Option (List Uuid)}
    (h : Reaches S hz repo.cachedIds w trace (.done found) w') :
    w.Fades hz w' ∧ ∀ ids, found = some ids → w.cachedList = some ids := by
  obtain ⟨trace₁, text, w₁, trace₂, hlook, hend, rfl⟩ := Reaches.of_andThen_done h
  obtain ⟨rfl, hdone, rfl⟩ := Reaches.of_done hend
  cases hdone
  obtain ⟨hfade, htext⟩ := of_lookUp_fading hcached hlook
  refine ⟨hfade, fun ids hids => ?_⟩
  rcases htext with rfl | ⟨rfl, -⟩
  · exact hids
  · exact nomatch hids

theorem of_cachedRule_fading (hcached : repo.cached = true) {found : Option Rule}
    (h : Reaches S hz (repo.cachedRule id) w trace (.done found) w') :
    w.Fades hz w' ∧ (∀ r, found = some r → w.cached id = some r) ∧
      (found = none → w.MayMiss hz id) := by
  obtain ⟨trace₁, text, w₁, trace₂, hlook, hend, rfl⟩ := Reaches.of_andThen_done h
  obtain ⟨rfl, hdone, rfl⟩ := Reaches.of_done hend
  cases hdone
  obtain ⟨hfade, htext⟩ := of_lookUp_fading hcached hlook
  rcases htext with rfl | ⟨rfl, hhazard⟩
  · exact ⟨hfade, fun _ hr => hr, .inl⟩
  · exact ⟨hfade, fun _ hr => (nomatch hr), fun _ => .inr hhazard⟩

/-- Whatever is found for some identifiers is cached, and whatever is not may be missed. -/
theorem of_cachedRules_fading (hcached : repo.cached = true) :
    ∀ {ids : List Uuid} {found : List (Uuid × Option Rule)} {w w' : World σ}
      {trace : List Exchange},
      Reaches S hz (repo.cachedRules ids) w trace (.done found) w' →
        w.Fades hz w' ∧ (∀ id r, (id, some r) ∈ found → id ∈ ids ∧ w.cached id = some r) ∧
          ∀ id, (id, none) ∈ found → id ∈ ids ∧ w.MayMiss hz id
  | [], _, _, _, _, h => by
    obtain ⟨-, hdone, rfl⟩ := Reaches.of_done h
    cases hdone
    exact ⟨.inl rfl, fun _ _ hmem => (nomatch hmem), fun _ hmem => nomatch hmem⟩
  | first :: rest, _, w, _, _, h => by
    obtain ⟨trace₁, c, w₁, trace₂, hfirst, hmore, rfl⟩ := Reaches.of_andThen_done h
    obtain ⟨trace₃, others, w₂, trace₄, hothers, hend, rfl⟩ := Reaches.of_andThen_done hmore
    obtain ⟨-, hdone, rfl⟩ := Reaches.of_done hend
    cases hdone
    obtain ⟨hfade, hsome, hnone⟩ := of_cachedRule_fading hcached hfirst
    obtain ⟨hfade', hsome', hnone'⟩ := of_cachedRules_fading hcached hothers
    refine ⟨hfade.trans hfade', fun id r hmem => ?_, fun id hmem => ?_⟩
    · rcases List.mem_cons.mp hmem with heq | hmem
      · obtain ⟨rfl, heq⟩ := Prod.ext_iff.mp heq
        exact ⟨List.mem_cons_self .., hsome r heq.symm⟩
      · obtain ⟨hid, hr⟩ := hsome' id r hmem
        exact ⟨List.mem_cons_of_mem _ hid, hfade.cached hr⟩
    · rcases List.mem_cons.mp hmem with heq | hmem
      · obtain ⟨rfl, heq⟩ := Prod.ext_iff.mp heq
        exact ⟨List.mem_cons_self .., hnone heq.symm⟩
      · obtain ⟨hid, hmiss⟩ := hnone' id hmem
        exact ⟨List.mem_cons_of_mem _ hid, hfade.mayMiss hmiss⟩

variable (repo) in
/-- Completes a list of which some rules were found in the cache. -/
def complete (found : List (Uuid × Option Rule)) : Work (Except RuleFault (List Rule)) :=
  if missing found = [] then .done (.ok (assemble found []))
  else Program.orFail (Work.askStore (.fetchByIds (missing found))) fun rules =>
    (repo.cacheRules rules).andThen fun _ => .done (.ok (assemble found rules))

/-- A list is resolved by lookups, and then completed. -/
theorem resolveIds_eq (ids : List Uuid) :
    repo.resolveIds ids = (repo.cachedRules ids).andThen repo.complete := by
  show (repo.cachedRules ids).andThen _ = _
  congr 1
  funext found
  unfold complete
  split
  next hnone => exact (if_pos hnone).symm
  next hsome => exact (if_neg hsome).symm

/-- A resolved list shows what may be shown. -/
theorem mayShow_of_resolveIds (hcached : repo.cached = true) {rules : List Rule}
    (h : Reaches S hz (repo.resolveIds ids) w trace (.done (.ok rules)) w') (hr : r ∈ rules) :
    ∃ id ∈ ids, w.MayShow S hz id r := by
  rw [resolveIds_eq] at h
  obtain ⟨trace₁, found, w₁, trace₂, hlook, hrest, rfl⟩ := Reaches.of_andThen_done h
  obtain ⟨hfade, hsome, hnone⟩ := of_cachedRules_fading hcached hlook
  -- Either the rule was found, or it is one of those that were fetched.
  have hshown : ∀ fetched, r ∈ assemble found fetched →
      (∀ q ∈ fetched, ∃ id ∈ missing found, ruleWith? (S.rules w.store) id = some q) →
        ∃ id ∈ ids, w.MayShow S hz id r := by
    intro fetched hmem hfetched
    rcases of_mem_assemble hmem with ⟨id, hid⟩ | hmem
    · obtain ⟨hlisted, hentry⟩ := hsome id r hid
      exact ⟨id, hlisted, .inl hentry⟩
    · obtain ⟨id, hid, hstore⟩ := hfetched r hmem
      obtain ⟨hlisted, hmiss⟩ := hnone id (mem_missing_iff.mp hid)
      exact ⟨id, hlisted, .inr ⟨hmiss, hstore⟩⟩
  unfold complete at hrest
  split at hrest
  next =>
    obtain ⟨-, hdone, -⟩ := Reaches.of_done hrest
    cases hdone
    exact hshown [] hr fun _ hq => nomatch hq
  next =>
    obtain ⟨trace₃, fetched, w₂, trace₄, hfetch, hkeep⟩ := Reaches.of_orFail_ok hrest
    obtain ⟨hfetched, -⟩ := hfetch.of_askStore_ok
    obtain ⟨trace₅, ⟨⟩, w₃, trace₆, -, hend, -⟩ := Reaches.of_andThen_done hkeep
    obtain ⟨-, hdone, -⟩ := Reaches.of_done hend
    cases hdone
    refine hshown fetched hr fun q hq => ?_
    obtain ⟨hq, id, hid, hqid⟩ := (hfetched q).mp hq
    refine ⟨id, hid, ?_⟩
    rw [← hfade.store_eq]
    exact (S.wellKept _).ruleWith?_eq_some_iff.mpr ⟨hq, hqid⟩

/-- Whatever is listed is enabled, or may be shown under a listed identifier. -/
theorem of_listed (hcached : repo.cached = true) {found : List Rule}
    (h : Reaches S hz repo.enabledRules w trace (.done (.ok found)) w') (hr : r ∈ found) :
    r.enabled = true ∨ ∃ ids, w.cachedList = some ids ∧ ∃ id ∈ ids, w.MayShow S hz id r := by
  obtain ⟨trace₁, list, w₁, trace₂, hlook, hrest, rfl⟩ := Reaches.of_andThen_done h
  obtain ⟨hfade, hlist⟩ := of_cachedIds_fading hcached hlook
  cases list with
  | some ids =>
    obtain ⟨trace₃, rules, w₂, trace₄, hresolve, hsort⟩ := Reaches.of_orFail_ok hrest
    obtain ⟨-, hdone, -⟩ := Reaches.of_done hsort
    cases hdone
    obtain ⟨id, hid, hshow⟩ := mayShow_of_resolveIds hcached hresolve (mem_sortByPriority.mp hr)
    exact .inr ⟨ids, hlist ids rfl, id, hid, hfade.mayShow hshow⟩
  | none =>
    obtain ⟨trace₃, rules, w₂, trace₄, hfetch, hkeep⟩ := Reaches.of_orFail_ok hrest
    obtain ⟨trace₅, ⟨⟩, w₃, trace₆, -, hend, -⟩ := Reaches.of_andThen_done hkeep
    obtain ⟨-, hdone, -⟩ := Reaches.of_done hend
    cases hdone
    have hmem := mem_sortByPriority.mp hr
    obtain ⟨rfl, -⟩ := hfetch.of_askStore_ok
    exact .inl (List.mem_filter.mp hmem).2

/-! ## That it is shown -/

/-- A lookup that is answered comes to what it finds in the answer. -/
theorem reaches_lookUp (hcached : repo.cached = true) (kind : String) {key : String}
    {x : Except RuleFault (Option String)} (h : w.MayAnswer hz key x) :
    Reaches S hz (repo.lookUp kind key) w
      [⟨.cache (.get key), x⟩, ⟨.observe (.lookup kind (outcomeOf x)), ()⟩]
      (.done (foundIn x)) w := by
  rw [lookUp_eq hcached]
  exact .next (.inl rfl) h.step (.next (.inl rfl) .observe (.refl _ _))

variable (S hz) in
/-- It may come to what is there. -/
theorem exists_lookUp_found (hcached : repo.cached = true) (kind key : String) (w : World σ) :
    ∃ trace, Reaches S hz (repo.lookUp kind key) w trace (.done (w.entries key)) w :=
  ⟨_, reaches_lookUp hcached kind (.inl rfl)⟩

variable (S) in
/-- A lookup comes to nothing if it fails, or if the entry vanishes before. -/
theorem exists_lookUp_missed (hcached : repo.cached = true) (hhazard : hz.expiry ∨ hz.fails .get)
    (kind key : String) (w : World σ) :
    ∃ trace w', Reaches S hz (repo.lookUp kind key) w trace (.done none) w' ∧
      w'.store = w.store := by
  rcases hhazard with hexpiry | hfails
  · have hfade : w.Fades hz (w.drop key) := by
      refine .inr ⟨hexpiry, rfl, fun k => ?_⟩
      by_cases hk : k = key
      · exact .inr (hk ▸ World.entries_drop_self w key)
      · exact .inl (World.entries_drop_ne hk)
    have hget : (w.drop key).Step S hz (.cache (.get key)) (.ok none) (w.drop key) :=
      World.entries_drop_self w key ▸ .get
    rw [lookUp_eq hcached]
    exact ⟨_, _, .next hfade hget (.next (.inl rfl) .observe (.refl _ _)), rfl⟩
  · exact ⟨_, w, reaches_lookUp hcached kind (.inr ⟨hfails, .storeUnavailable, rfl⟩), rfl⟩

/-- Any answers the lookups may come to, they come to in some run. -/
theorem exists_cachedRules (S : RuleStore σ) (hcached : repo.cached = true) (ids : List Uuid)
    {answers : Uuid → Except RuleFault (Option String)}
    (hanswers : ∀ id, w.MayAnswer hz (ruleKey id) (answers id)) :
    ∃ trace, Reaches S hz (repo.cachedRules ids) w trace
      (.done (ids.map fun id => (id, served answers id))) w ∧
      lookups trace = ids.map fun id => (ruleKey id, answers id) := by
  induction ids with
  | nil => exact ⟨[], .refl _ _, rfl⟩
  | cons id rest ih =>
    obtain ⟨trace, hrest, hlookups⟩ := ih
    have hfirst := (reaches_lookUp (S := S) hcached "rule" (hanswers id)).andThen fun text =>
      .done (text.bind Rule.read?)
    refine ⟨_, (hfirst.andThen _).trans ((hrest.andThen _).trans (.refl _ _)), ?_⟩
    rw [lookups_append, lookups_append, hlookups]
    simp [lookups, Exchange.lookup?]

variable (S hz) in
/-- The rules of a list may all be found as they are cached. -/
theorem exists_cachedRules_found (hcached : repo.cached = true) (ids : List Uuid) (w : World σ) :
    ∃ trace, Reaches S hz (repo.cachedRules ids) w trace
      (.done (ids.map fun id => (id, w.cached id))) w := by
  obtain ⟨trace, hrules, -⟩ :=
    exists_cachedRules S hcached ids fun id => (.inl rfl : w.MayAnswer hz (ruleKey id) _)
  exact ⟨trace, hrules⟩

variable (S) in
/-- If something may go wrong, none of them may be found. -/
theorem exists_cachedRules_missed (hcached : repo.cached = true)
    (hhazard : hz.expiry ∨ hz.fails .get) (ids : List Uuid) (w : World σ) :
    ∃ trace w', Reaches S hz (repo.cachedRules ids) w trace
      (.done (ids.map fun id => (id, none))) w' ∧ w'.store = w.store := by
  induction ids generalizing w with
  | nil => exact ⟨[], w, .refl _ _, rfl⟩
  | cons id rest ih =>
    obtain ⟨trace₁, w₁, hfirst, hstore⟩ :=
      exists_lookUp_missed S hcached hhazard "rule" (ruleKey id) w
    obtain ⟨trace₂, w₂, hrest, hstore'⟩ := ih w₁
    have hread := hfirst.andThen fun text => .done (text.bind Rule.read?)
    exact ⟨_, w₂, (hread.andThen _).trans ((hrest.andThen _).trans (.refl _ _)),
      hstore'.trans hstore⟩

/-- Whatever was found or fetched under one of the identifiers is put on the list. -/
theorem mem_assemble :
    ∀ {found : List (Uuid × Option Rule)} {fetched : List Rule} {c : Option Rule},
    (id, c) ∈ found → (c <|> fetched? fetched id) = some r → r ∈ assemble found fetched
  | [], _, _, hmem, _ => nomatch hmem
  | (first, some q) :: rest, fetched, c, hmem, hc => by
    rcases List.mem_cons.mp hmem with heq | hmem
    · cases heq
      exact List.mem_cons.mpr (.inl (Option.some.inj hc).symm)
    · exact List.mem_cons_of_mem _ (mem_assemble hmem hc)
  | (first, none) :: rest, fetched, c, hmem, hc => by
    apply List.mem_append.mpr
    by_cases hfirst : (id, c) = (first, none)
    · cases hfirst
      exact .inl (Option.mem_toList.mpr hc)
    · have hrest : (id, c) ∈ rest := (List.mem_cons.mp hmem).resolve_left hfirst
      cases c with
      | some q => exact .inr (mem_assemble hrest hc)
      | none =>
        -- What was fetched under another identifier is still there.
        have hne : id ≠ first := fun heq => hfirst (heq ▸ rfl)
        exact .inr (mem_assemble hrest ((fetched?_filter_ne hne).trans hc))

/-- Whatever is found for some identifiers, the rest can be fetched. -/
theorem exists_resolved (havail : S.Available) {found : List (Uuid × Option Rule)}
    (h : Reaches S hz (repo.cachedRules ids) w trace (.done found) w₁) :
    ∃ trace' fetched w',
      Reaches S hz (repo.resolveIds ids) w trace' (.done (.ok (assemble found fetched))) w' ∧
      ∀ q, q ∈ fetched ↔ q ∈ S.rules w₁.store ∧ ∃ id ∈ missing found, q.id = some id := by
  have hrest : ∃ trace' fetched w', Reaches S hz (repo.complete found) w₁ trace'
      (.done (.ok (assemble found fetched))) w' ∧
        ∀ q, q ∈ fetched ↔ q ∈ S.rules w₁.store ∧ ∃ id ∈ missing found, q.id = some id := by
    unfold complete
    split
    next hnone =>
      rw [hnone]
      refine ⟨_, [], w₁, .refl _ _, fun q => ⟨fun hq => (nomatch hq), fun ⟨_, _, hid, _⟩ => ?_⟩⟩
      exact nomatch hid
    next =>
      obtain ⟨fetched, hanswer, heffect⟩ :=
        havail.exists_answer (c := .fetchByIds (missing found)) rfl w₁.store
      obtain ⟨trace', ⟨⟩, w', hcaches⟩ := Reaches.exists_run S hz (repo.cacheRules fetched) w₁
      have hkeep := hcaches.andThen fun _ =>
        (.done (.ok (assemble found fetched)) : Work (Except RuleFault (List Rule)))
      exact ⟨_, fetched, w', .next (.inl rfl) (.of_answer hanswer) hkeep, heffect.1⟩
  obtain ⟨trace', fetched, w', hrest, hfetched⟩ := hrest
  rw [resolveIds_eq]
  exact ⟨_, fetched, w', (h.andThen _).trans hrest, hfetched⟩

/-- **What may be shown under a listed identifier is listed** in some run. -/
theorem exists_listed (havail : S.Available) (hcached : repo.cached = true)
    (hlist : w.cachedList = some ids) (hid : id ∈ ids) (hshow : w.MayShow S hz id r) :
    ∃ trace found w', Reaches S hz repo.enabledRules w trace (.done (.ok found)) w' ∧
      r ∈ found := by
  obtain ⟨trace₁, hlook⟩ := exists_lookUp_found S hz hcached "enabled_list" listKey w
  -- The rules are looked up so that this one is found, or so that it is fetched.
  obtain ⟨trace₂, found, w₁, c, hfound, hstore, hmem, hc⟩ : ∃ trace₂ found w₁ c,
      Reaches S hz (repo.cachedRules ids) w trace₂ (.done found) w₁ ∧ w₁.store = w.store ∧
      (id, c) ∈ found ∧ (c = some r ∨ c = none ∧ ruleWith? (S.rules w.store) id = some r) := by
    obtain ⟨trace₂, hfound⟩ := exists_cachedRules_found S hz hcached ids w
    rcases hshow with hr | ⟨hnone | hhazard, hr⟩
    · exact ⟨trace₂, _, w, _, hfound, rfl, List.mem_map.mpr ⟨id, hid, rfl⟩, .inl hr⟩
    · exact ⟨trace₂, _, w, _, hfound, rfl, List.mem_map.mpr ⟨id, hid, rfl⟩, .inr ⟨hnone, hr⟩⟩
    · obtain ⟨trace₂, w₁, hmissed, hstore⟩ := exists_cachedRules_missed S hcached hhazard ids w
      exact ⟨trace₂, _, w₁, none, hmissed, hstore, List.mem_map.mpr ⟨id, hid, rfl⟩, .inr ⟨rfl, hr⟩⟩
  obtain ⟨trace₃, fetched, w', hresolve, hfetched⟩ := exists_resolved havail hfound
  have hr : r ∈ assemble found fetched := by
    refine mem_assemble hmem ?_
    rcases hc with rfl | ⟨rfl, hr⟩
    · rfl
    · exact (fetched?_eq (S.wellKept _) hfetched (mem_missing_iff.mpr hmem)).trans (hstore ▸ hr)
  have hread : Reaches S hz repo.cachedIds w trace₁ (.done (some ids)) w := by
    have hread := hlook.andThen fun text => .done (text.bind readIds?)
    rw [← hlist]
    exact hread
  exact ⟨_, _, w', (hread.andThen _).trans ((hresolve.andThen _).trans (.refl _ _)),
    mem_sortByPriority.mpr hr⟩

end Repository

/-! ## Failing deletions -/

/-- Deletions may fail, and nothing else. -/
def Hazards.failingDeletions : Hazards := ⟨False, fun op => op = .delete⟩

/-- A run in which no deletion has failed is one in which none may fail. -/
theorem Reaches.of_no_failed_deletion {α : Type} {p p' : Work α} {trace : List Exchange}
    (h : Reaches S hz p w trace p' w')
    (hnone : ∀ key f, (⟨.cache (.delete key), .error f⟩ : Exchange) ∉ trace) :
    Reaches S .sparingDeletions p w trace p' w' := by
  induction h with
  | refl p w => exact .refl p w
  | @next r rest w w₁ w₂ w' x trace p' hfade hstep _ ih =>
    have hrest := ih fun key f hmem => hnone key f (List.mem_cons_of_mem _ hmem)
    have hfade' : w.Fades .sparingDeletions w₁ :=
      hfade.imp_right fun ⟨_, hvanished⟩ => ⟨trivial, hvanished⟩
    have hstep' : w₁.Step S .sparingDeletions r x w₂ := by
      cases hstep with
      | store => exact .store
      | get => exact .get
      | set => exact .set
      | delete => exact .delete
      | getFails => exact .getFails CacheOperation.noConfusion
      | setFails _ hw' => exact .setFails CacheOperation.noConfusion hw'
      | deleteFails => exact absurd (List.mem_cons_self ..) (hnone _ _)
      | observe => exact .observe
    exact .next hfade' hstep' hrest

/-- In a run in which none may fail, none does. -/
theorem Reaches.no_failed_deletion {α : Type} {p p' : Work α} {trace : List Exchange}
    (h : Reaches S hz p w trace p' w') (hdelete : ¬ hz.fails .delete) (key : String)
    (f : RuleFault) : (⟨.cache (.delete key), .error f⟩ : Exchange) ∉ trace := by
  induction h with
  | refl => exact fun hmem => nomatch hmem
  | next _ hstep _ ih =>
    intro hmem
    rcases List.mem_cons.mp hmem with heq | hmem
    · cases heq
      cases hstep with
      | deleteFails hfails => exact hdelete hfails
    · exact ih hmem

/-! ## Entries that are right on what is enabled -/

namespace Repository

variable {rules : List Rule}

/-- That an entry is right on what is enabled: a rule that is read under the key of one is enabled
just if that is, and an identifier that is listed is that of an enabled rule. Of the rest of a rule
nothing is said, so this holds whatever becomes of its numbers in the cache. -/
structure FlagFits (rules : List Rule) (key text : String) : Prop where
  rule : ∀ id, key = ruleKey id → ∀ r, Rule.read? text = some r →
    ∃ q, ruleWith? rules id = some q ∧ q.enabled = r.enabled
  list : key = listKey → ∀ ids, readIds? text = some ids →
    ∀ id ∈ ids, ∃ q, ruleWith? rules id = some q ∧ q.enabled = true

theorem flagFits_text (hkept : WellKept rules) (hr : r ∈ rules) (hid : r.id = some id) :
    FlagFits rules (ruleKey id) r.text := by
  refine ⟨fun id' hkey q hread => ?_, fun hkey => absurd hkey (ruleKey_ne_listKey id)⟩
  obtain rfl := ruleKey_injective hkey
  obtain ⟨-, -, henabled, -⟩ := Rule.outline_of_read? hread
  exact ⟨r, hkept.ruleWith?_eq_some_iff.mpr ⟨hr, hid⟩, henabled.symm⟩

theorem flagFits_enabledIds (hkept : WellKept rules) :
    FlagFits rules listKey (idsText (enabledIds rules)) := by
  refine ⟨fun id hkey => absurd hkey.symm (ruleKey_ne_listKey id), fun _ ids hread id hid => ?_⟩
  rw [readIds?_idsText] at hread
  cases hread
  exact (mem_enabledIds_iff hkept).mp hid

/-- An entry stays right after a write that does not make it stale. -/
theorem FlagFits.after {op : RuleOperation} {wr : Write} (hwr : op.write? = some wr)
    {before after : List Rule} {x : Except RuleFault wr.call.Answer} (hafter : WellKept after)
    (hx : wr.call.Outcome before x after) {key text : String} (hkey : key ∉ wr.stale x)
    (h : FlagFits before key text) : FlagFits after key text := by
  obtain ⟨hrule, hlist⟩ := rules_after hwr hafter hx hkey
  constructor
  · intro id heq r hread
    obtain ⟨q, hq, henabled⟩ := h.rule id heq r hread
    exact ⟨q, hrule id q heq hq, henabled⟩
  · intro heq
    rw [hlist heq]
    exact h.list heq

end Repository

/-- That all entries are right on what is enabled. -/
def World.FlagsFit (S : RuleStore σ) (w : World σ) : Prop :=
  ∀ key text, w.entries key = some text → Repository.FlagFits (S.rules w.store) key text

theorem World.flagsFit_of_empty {s : σ} : World.FlagsFit S ⟨s, fun _ => none⟩ :=
  fun _ _ h => nomatch h

/-- The terms of reads while a store has some rules, when only that is kept. -/
def Terms.flags (rules : List Rule) : Terms where
  asks c := c.isRead
  tells c x := c.Outcome rules x rules
  finds := Repository.FlagFits rules
  fits := Repository.FlagFits rules
  finds_of_fits h := h

/-- A store keeps its side of them. -/
theorem RuleStore.flags (S : RuleStore σ) (rules : List Rule) (c : StoreCall) (s : σ)
    (hread : (Terms.flags rules).asks c) (hs : S.rules s = rules) :
    (Terms.flags rules).tells c (S.answer c s).1 ∧ S.rules (S.answer c s).2 = rules := by
  have hlawful := S.lawful c s
  rw [hs] at hlawful
  have hafter := hlawful.of_read hread
  rw [hafter] at hlawful
  exact ⟨hlawful, hafter⟩

namespace Repository

variable {rules : List Rule} {repo : Repository} {trace : List Exchange}

/-- Reads are sound on these terms, whatever the numbers in the rules are. -/
theorem sound_perform_flags (repo : Repository) (hkept : WellKept rules) {op : RuleOperation}
    (hread : op.isRead) : Sound (.flags rules) (fun _ => True) (repo.perform op) := by
  have htakes : ∀ r ∈ rules, Takes (.flags rules) r := fun r hr id hid => flagFits_text hkept hr hid
  cases op with
  | enabledRules =>
    have hlisting : Sound (.flags rules) (fun _ => True) repo.enabledRules := by
      apply repo.sound_enabledRules
      · intro _ ids _ _
        apply repo.sound_resolveIds
        · exact fun _ _ _ => trivial
        · intro found _ _
          have hfetched : ∀ fetched,
              (Terms.flags rules).tells (.fetchByIds (missing found)) (.ok fetched) →
              ∀ r ∈ fetched, Takes (.flags rules) r :=
            fun _ htells r hr => htakes r ((htells.1 r).mp hr).1
          exact ⟨rfl, fun fetched htells => ⟨hfetched fetched htells, trivial⟩, fun _ _ => trivial⟩
      · refine ⟨rfl, fun listed htells => ?_, fun _ _ => trivial⟩
        obtain ⟨rfl, -⟩ := htells
        exact ⟨flagFits_enabledIds hkept, fun r hr => htakes r (List.mem_filter.mp hr).1, trivial⟩
    exact hlisting.andThen fun _ _ => trivial
  | byId id =>
    have hbyId : Sound (.flags rules) (fun _ => True) (repo.byId id) := by
      apply repo.sound_byId
      · exact fun _ _ => trivial
      · refine ⟨rfl, fun found htells => ⟨fun r hr => ?_, trivial⟩, fun _ _ => trivial⟩
        exact htakes r (mem_of_ruleWith? (htells.1.symm.trans hr)).1
    exact hbyId.andThen fun _ _ => trivial
  | create r => exact nomatch hread
  | update r => exact nomatch hread
  | delete id => exact nomatch hread

/-- **One operation** leaves all entries right on what is enabled, if its deletions succeed. -/
theorem flagsFit_of_perform (hcached : repo.cached = true) (hdelete : ¬ hz.fails .delete)
    {op : RuleOperation} {reply : RuleReply} (hfits : w.FlagsFit S)
    (hrun : Reaches S hz (repo.perform op) w trace (.done reply) w') : w'.FlagsFit S := by
  cases hwr : op.write? with
  | some wr =>
    obtain ⟨-, hstore, hentries⟩ := reaches_write_done hcached hdelete hwr hrun
    intro key text hkey
    obtain ⟨hbefore, hstale⟩ := hentries key text hkey
    rw [hstore]
    exact (hfits key text hbefore).after hwr (S.wellKept _) (S.lawful wr.call w.store) hstale
  | none =>
    rcases write?_eq_none hwr with hread | hnothing
    · have hsound := repo.sound_perform_flags (S.wellKept w.store) hread
      obtain ⟨hholds, -, hstore⟩ := Sound.reaches (S.flags (S.rules w.store)) hrun hsound hfits rfl
      intro key text hkey
      rw [hstore]
      exact hholds key text hkey
    · rw [hnothing] at hrun
      obtain ⟨-, -, rfl⟩ := Reaches.of_done hrun
      exact hfits

/-- **So do operations one after the other.** -/
theorem flagsFit_of_performAll (hcached : repo.cached = true) (hdelete : ¬ hz.fails .delete) :
    ∀ {ops : List RuleOperation} {w w' : World σ} {trace : List Exchange}
      {replies : List RuleReply},
      w.FlagsFit S → Reaches S hz (repo.performAll ops) w trace (.done replies) w' → w'.FlagsFit S
  | [], w, w', trace, replies, hfits, hrun => by
    obtain ⟨-, -, rfl⟩ := Reaches.of_done hrun
    exact hfits
  | op :: rest, w, w', trace, replies, hfits, hrun => by
    obtain ⟨trace₁, reply, w₁, trace₂, others, hfirst, hothers, -⟩ := of_performAll_cons hrun
    exact flagsFit_of_performAll hcached hdelete
      (flagsFit_of_perform hcached hdelete hfits hfirst) hothers

/-! ## When listings show enabled rules only -/

/-- That every rule that may be shown under a listed identifier is enabled. -/
def ShowsEnabled (S : RuleStore σ) (hz : Hazards) (w : World σ) : Prop :=
  ∀ ids, w.cachedList = some ids → ∀ id ∈ ids, ∀ r, w.MayShow S hz id r → r.enabled = true

/-- If all entries are right, it is: what is listed is enabled in the store, and shown as enabled as
there. -/
theorem showsEnabled_of_flagsFit (hfits : w.FlagsFit S) : ShowsEnabled S hz w := by
  intro ids hlist id hid r hshow
  obtain ⟨text, htext, hread⟩ := Option.bind_eq_some_iff.mp hlist
  obtain ⟨q, hq, henabled⟩ := (hfits _ _ htext).list rfl ids hread id hid
  rcases hshow with hcached | ⟨-, hstore⟩
  · obtain ⟨text, htext, hread⟩ := Option.bind_eq_some_iff.mp hcached
    obtain ⟨q', hq', hsame⟩ := (hfits _ _ htext).rule id rfl r hread
    rw [hq] at hq'
    cases hq'
    exact hsame.symm.trans henabled
  · rw [hq] at hstore
    cases hstore
    exact henabled

/-- **When listings show enabled rules only.** Let operations be performed one after the other from
an empty cache on, with whatever failures of the cache. Then all runs of a listing that comes next
answer only enabled rules if and only if every rule that may be shown under a listed identifier is
enabled. If no deletion has failed by then, they do. -/
theorem listing_enabled_iff (havail : S.Available) (hcached : repo.cached = true) {s : σ}
    {ops : List RuleOperation} {replies : List RuleReply}
    (hrun : Reaches S hz (repo.performAll ops) ⟨s, fun _ => none⟩ trace (.done replies) w) :
    ((∀ trace' found w', Reaches S hz repo.enabledRules w trace' (.done (.ok found)) w' →
        ∀ r ∈ found, r.enabled = true) ↔ ShowsEnabled S hz w) ∧
    ((∀ key f, (⟨.cache (.delete key), .error f⟩ : Exchange) ∉ trace) →
      ∀ trace' found w', Reaches S hz repo.enabledRules w trace' (.done (.ok found)) w' →
        ∀ r ∈ found, r.enabled = true) := by
  have hiff : (∀ trace' found w', Reaches S hz repo.enabledRules w trace' (.done (.ok found)) w' →
      ∀ r ∈ found, r.enabled = true) ↔ ShowsEnabled S hz w := by
    constructor
    · intro hall ids hlist id hid r hshow
      obtain ⟨trace', found, w', hlisted, hr⟩ := exists_listed havail hcached hlist hid hshow
      exact hall trace' found w' hlisted r hr
    · intro hshows trace' found w' hlisted r hr
      rcases of_listed hcached hlisted hr with henabled | ⟨ids, hlist, id, hid, hshow⟩
      · exact henabled
      · exact hshows ids hlist id hid r hshow
  refine ⟨hiff, fun hnone => hiff.mpr (showsEnabled_of_flagsFit ?_)⟩
  have hspared := hrun.of_no_failed_deletion hnone
  have hdelete : ¬ Hazards.sparingDeletions.fails .delete := fun h => h rfl
  exact flagsFit_of_performAll hcached hdelete World.flagsFit_of_empty hspared

/-- An update that disables the only rule of a store. -/
def switchedOff : Rule := { Rule.onStatus "down" with id := some (.ofNat 1), enabled := false }

/-- The only rule of a store is listed and then disabled. Gets and sets may fail and entries may
vanish, but deletions succeed, so no listing shows it. -/
theorem listing_enabled_iff_single : ∃ trace replies w,
    Reaches Memory.store .sparingDeletions
      ((Repository.mk true 60 300).performAll [.enabledRules, .update switchedOff])
      ⟨Memory.single (.onStatus "up"), fun _ => none⟩ trace (.done replies) w ∧
    (∀ key f, (⟨.cache (.delete key), .error f⟩ : Exchange) ∉ trace) ∧
    ShowsEnabled Memory.store .sparingDeletions w ∧
    ∀ trace' found w',
      Reaches Memory.store .sparingDeletions (Repository.mk true 60 300).enabledRules w trace'
        (.done (.ok found)) w' → ∀ r ∈ found, r.enabled = true := by
  obtain ⟨trace, replies, w, hrun⟩ := Reaches.exists_run Memory.store .sparingDeletions
    ((Repository.mk true 60 300).performAll [.enabledRules, .update switchedOff])
    ⟨Memory.single (.onStatus "up"), fun _ => none⟩
  have hnone := hrun.no_failed_deletion fun hdelete => hdelete rfl
  obtain ⟨hiff, henabled⟩ := listing_enabled_iff Memory.available_store rfl hrun
  exact ⟨trace, replies, w, hrun, hnone, hiff.mp (henabled hnone), henabled hnone⟩

/-! ## A disabled rule on the list -/

/-- The only rule of a store is listed, and its identifier is on the cached list then. -/
theorem exists_listed_single (r : Rule) :
    ∃ trace reply w, Reaches Memory.store hz ((Repository.mk true 60 300).perform .enabledRules)
      ⟨Memory.single { r with enabled := true }, fun _ => none⟩ trace (.done reply) w ∧
      w.store = Memory.single { r with enabled := true } ∧ w.cachedList = some [.ofNat 1] := by
  refine ⟨_, _, _, .next (.inl rfl) .get (.next (.inl rfl) .observe (.next (.inl rfl) .store
    (.next (.inl rfl) .set (.next (.inl rfl) .set (.refl _ _))))), rfl, ?_⟩
  rw [World.cachedList, World.entries_put_ne (ruleKey_ne_listKey _).symm, World.entries_put_self,
    Option.bind_some, readIds?_idsText]
  rfl

/-- A rule is listed, and then disabled. Of its two keys the cache fails to delete that of the list.
So the next listing, in which nothing fails, fetches the rule as it is now, and shows it. -/
theorem disabled_rule_listed :
    ∃ trace replies w, Reaches Memory.store .failingDeletions
      ((Repository.mk true 60 300).performAll [.enabledRules, .update switchedOff])
      ⟨Memory.single (.onStatus "up"), fun _ => none⟩ trace (.done replies) w ∧
    ∃ trace' found w',
      Reaches Memory.store .failingDeletions (Repository.mk true 60 300).enabledRules w trace'
        (.done (.ok found)) w' ∧ ∃ r ∈ found, r.enabled = false := by
  obtain ⟨stored, m, hupdate, hstored, hdisabled⟩ : ∃ stored m,
      Memory.store.answer (.update switchedOff) (Memory.single (.onStatus "up")) =
        (.ok (some stored), m) ∧
      ruleWith? (Memory.store.rules m) (.ofNat 1) = some stored ∧ stored.enabled = false :=
    ⟨_, _, rfl, rfl, rfl⟩
  obtain ⟨trace₁, listed, w₁, hlisted, hstore, hlist⟩ :
      ∃ trace₁ listed w₁, Reaches Memory.store .failingDeletions
        ((Repository.mk true 60 300).perform .enabledRules)
        ⟨Memory.single (.onStatus "up"), fun _ => none⟩ trace₁ (.done listed) w₁ ∧
        w₁.store = Memory.single (.onStatus "up") ∧ w₁.cachedList = some [.ofNat 1] :=
    exists_listed_single (.onStatus "up")
  rw [← hstore] at hupdate
  -- The call on the store, the deletion that succeeds, and the one that fails.
  have hupdated : Reaches Memory.store .failingDeletions
      ((Repository.mk true 60 300).perform (.update switchedOff)) w₁ _
      (.done (.updated (.ok (some stored))))
      (World.drop { w₁ with store := m } (ruleKey (.ofNat 1))) :=
    .next (.inl rfl) (.of_answer hupdate) (.next (.inl rfl) .delete (.next (.inl rfl)
      (.deleteFails (f := .storeUnavailable) rfl (.inl rfl)) (.refl _ _)))
  have hstill : (World.drop { w₁ with store := m } (ruleKey (.ofNat 1))).cachedList =
      some [.ofNat 1] := by
    rw [World.cachedList, World.entries_drop_ne (ruleKey_ne_listKey _).symm]
    exact hlist
  have hgone : (World.drop { w₁ with store := m } (ruleKey (.ofNat 1))).cached (.ofNat 1) =
      none := by
    rw [World.cached, World.entries_drop_self]
    rfl
  have hcached : (Repository.mk true 60 300).cached = true := rfl
  obtain ⟨trace', found, w', hshown, hmem⟩ := exists_listed Memory.available_store hcached hstill
    (List.mem_singleton.mpr rfl) (.inr ⟨.inl hgone, hstored⟩)
  exact ⟨_, _, _, reaches_performAll_cons hlisted (reaches_performAll_cons hupdated (.refl _ _)),
    trace', found, w', hshown, stored, hmem, hdisabled⟩

end Repository

end AlertRules
