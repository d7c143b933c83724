import AlertRules.Proofs.Repository.Entry

/-!
# Working on terms

`Terms` say what may be asked of a store, what it may be counted on to answer, what may be found in
the cache under each key, and what may be put there. A program is `Sound` on such terms if, as long
as the store answers and the cache holds what the terms say, it asks only what it may, puts only
such texts into the cache, and comes to a good result. This is a condition on the program as a tree,
one request at a time (`Terms.Admits`), so it is proved of the operations of the repository piece by
piece.

What it is worth is in `Terms.Admits.of_step`: one request leaves in the cache what was there or may
be put there, and its answer may be counted on; and in `Terms.reaches`: so does every part of a run,
if the store keeps its side.

The second half has one lemma for each part of the repository, down to `sound_byId` and
`sound_enabledRules`. What the store must answer for a good result is left to whoever uses them.
-/

namespace AlertRules

/-- What a program may ask of a store and may count on. -/
structure Terms where
  asks : StoreCall → Prop
  tells : (c : StoreCall) → Except RuleFault c.Answer → Prop
  /-- What may be found in the cache. -/
  finds : String → String → Prop
  /-- What may be put into the cache. -/
  fits : String → String → Prop
  finds_of_fits : ∀ {key text : String}, fits key text → finds key text

namespace Terms

variable (T : Terms)

/-- That a request may be made, and that every answer that may be counted on satisfies `k`. -/
def Admits : (r : Request) → (r.Answer → Prop) → Prop
  | .store c, k => T.asks c ∧ ∀ x, T.tells c x → k x
  | .cache (.get key), k => ∀ x, (∀ text, x = .ok (some text) → T.finds key text) → k x
  | .cache (.set key text _), k => T.fits key text ∧ ∀ x, k x
  | .cache (.delete _), k => ∀ x, k x
  | .observe _, k => ∀ x, k x

/-- That everything in the cache may be found there. -/
def Holds {σ : Type} (w : World σ) : Prop :=
  ∀ key text, w.entries key = some text → T.finds key text

variable {T}

theorem Admits.mono {r : Request} {k k' : r.Answer → Prop} (h : T.Admits r k)
    (hk : ∀ x, k x → k' x) : T.Admits r k' := by
  match r with
  | .store c => exact ⟨h.1, fun x hx => hk x (h.2 x hx)⟩
  | .cache (.get key) => exact fun x hx => hk x (h x hx)
  | .cache (.set key text ttl) => exact ⟨h.1, fun x => hk x (h.2 x)⟩
  | .cache (.delete key) => exact fun x => hk x (h x)
  | .observe o => exact fun x => hk x (h x)

end Terms

/-- That a program keeps to the terms, and comes to a good result. -/
def Sound (T : Terms) {α : Type} (good : α → Prop) : Work α → Prop
  | .done a => good a
  | .ask r rest => T.Admits r fun x => Sound T good (rest x)

namespace Sound

variable {T : Terms} {α β : Type} {good mid : α → Prop} {goal : β → Prop}

/-- A sound program may go on with a good result. -/
theorem andThen {p : Work α} {f : α → Work β} (hp : Sound T mid p)
    (hf : ∀ a, mid a → Sound T goal (f a)) : Sound T goal (p.andThen f) := by
  induction p with
  | done a => exact hf a hp
  | ask r rest ih => exact Terms.Admits.mono hp fun x hx => ih x hx

/-- The same for a program that may fail. -/
theorem orFail {ε : Type} {mid : Except ε α → Prop} {goal : Except ε β → Prop}
    {p : Work (Except ε α)} {f : α → Work (Except ε β)} (hp : Sound T mid p)
    (hok : ∀ a, mid (.ok a) → Sound T goal (f a)) (herror : ∀ e, mid (.error e) → goal (.error e)) :
    Sound T goal (p.orFail f) := by
  apply hp.andThen
  intro x hx
  cases x with
  | ok a => exact hok a hx
  | error e => exact herror e hx

end Sound

/-! ## Steps and runs -/

section Runs

variable {T : Terms} {σ α : Type} {S : RuleStore σ} {hz : Hazards} {w w' : World σ}

theorem Terms.holds_fades (hw : T.Holds w) (h : w.Fades hz w') : T.Holds w' :=
  fun key text htext => hw key text (h.entries htext)

/-- **One request** on the terms leaves in the cache what was there or may be put there, and its
answer may be counted on. -/
theorem Terms.Admits.of_step {r : Request} {k : r.Answer → Prop} {x : r.Answer} (hr : T.Admits r k)
    (hw : T.Holds w) (hstep : w.Step S hz r x w')
    (htells : ∀ c, r = .store c → T.tells c (S.answer c w.store).1) :
    (∀ key text, w'.entries key = some text →
      w.entries key = some text ∨ T.fits key text) ∧ k x := by
  constructor
  · intro key text htext
    rcases hstep.entries htext with hbefore | ⟨ttl, rfl⟩
    · exact .inl hbefore
    · exact .inr hr.1
  · cases hstep with
    | store => exact hr.2 _ (htells _ rfl)
    | get => exact hr _ fun text htext => hw _ text (Except.ok.inj htext)
    | set => exact hr.2 _
    | delete => exact hr _
    | getFails hfails => exact hr _ fun text htext => nomatch htext
    | setFails => exact hr.2 _
    | deleteFails => exact hr _
    | observe => exact hr _

/-- **Every part of a run** that keeps to the terms leaves the cache as they say. What keeps a
program to them is some `Q`, which one request hands on to the rest, and which may say more of the
request. The store keeps its side as long as its state is one of those in `K`, which no admitted
call leaves. -/
theorem Terms.reaches {Q : Work α → Prop} {R : Request → Prop}
    (hQ : ∀ r rest, Q (.ask r rest) → R r ∧ T.Admits r fun x => Q (rest x)) {K : σ → Prop}
    (hK : ∀ c s, T.asks c → K s → T.tells c (S.answer c s).1 ∧ K (S.answer c s).2)
    {p p' : Work α} {trace : List Exchange} (hrun : Reaches S hz p w trace p' w')
    (hp : Q p) (hw : T.Holds w) (hs : K w.store) :
    T.Holds w' ∧ Q p' ∧ K w'.store ∧ ∀ e ∈ trace, R e.1 := by
  induction hrun with
  | refl => exact ⟨hw, hp, hs, fun _ he => nomatch he⟩
  | @next r rest w w₁ w₂ w' x trace p' hfade hstep _ ih =>
    obtain ⟨hr, hadmits⟩ := hQ r rest hp
    -- What vanishes before the request vanishes from the cache, so the store is still in `K`.
    have hs₁ : K w₁.store := hfade.store_eq ▸ hs
    obtain ⟨hentries, hrest⟩ := hadmits.of_step (Terms.holds_fades hw hfade) hstep fun c hc => by
      subst hc
      exact (hK c _ hadmits.1 hs₁).1
    have hw₂ : T.Holds w₂ := by
      intro key text htext
      rcases hentries key text htext with hbefore | hfits
      · exact Terms.holds_fades hw hfade key text hbefore
      · exact T.finds_of_fits hfits
    have hs₂ : K w₂.store := by
      rcases hstep.store_eq with ⟨c, rfl, hstore⟩ | hstore
      · rw [hstore]
        exact (hK _ _ hadmits.1 hs₁).2
      · rw [hstore]
        exact hs₁
    obtain ⟨hholds, hgood, hstays, htrace⟩ := ih hrest hw₂ hs₂
    exact ⟨hholds, hgood, hstays, List.forall_mem_cons.mpr ⟨hr, htrace⟩⟩

namespace Sound

variable {good : α → Prop}

/-- One request of a sound program leaves the rest sound. -/
theorem step {r : Request} {rest : r.Answer → Work α} {x : r.Answer}
    (hp : Sound T good (.ask r rest)) (hw : T.Holds w) (hstep : w.Step S hz r x w')
    (htells : ∀ c, r = .store c → T.tells c (S.answer c w.store).1) :
    (∀ key text, w'.entries key = some text →
      w.entries key = some text ∨ T.fits key text) ∧ Sound T good (rest x) :=
  Terms.Admits.of_step (k := fun x => Sound T good (rest x)) hp hw hstep htells

/-- Every part of a run of a sound program leaves the cache as the terms say, and the rest sound. -/
theorem reaches {K : σ → Prop}
    (hK : ∀ c s, T.asks c → K s → T.tells c (S.answer c s).1 ∧ K (S.answer c s).2)
    {p p' : Work α} {trace : List Exchange} (hrun : Reaches S hz p w trace p' w')
    (hp : Sound T good p) (hw : T.Holds w) (hs : K w.store) :
    T.Holds w' ∧ Sound T good p' ∧ K w'.store := by
  obtain ⟨hholds, hrest, hstays, -⟩ := Terms.reaches (R := fun _ => True)
    (fun _ _ hask => ⟨trivial, hask⟩) hK hrun hp hw hs
  exact ⟨hholds, hrest, hstays⟩

end Sound

end Runs

namespace Repository

/-! ## Parts of the repository -/

variable {T : Terms} (repo : Repository)

/-- What is looked up in the cache may be found there. -/
theorem sound_lookUp (kind key : String) :
    Sound T (fun text => ∀ t, text = some t → T.finds key t) (repo.lookUp kind key) := by
  unfold lookUp
  split
  · intro x hx
    match x with
    | .ok (some text) =>
      intro _ t ht
      exact hx t (congrArg _ ht)
    | .ok none => exact fun _ t ht => nomatch ht
    | .error e => exact fun _ t ht => nomatch ht
  · exact fun t ht => nomatch ht

theorem sound_keep {key text : String} (h : T.fits key text) (ttl : Nat) :
    Sound T (fun _ => True) (repo.keep key text ttl) := by
  unfold keep
  split
  · exact ⟨h, fun _ => trivial⟩
  · trivial

theorem sound_forget (key : String) : Sound T (fun _ => True) (repo.forget key) := by
  unfold forget
  split
  · exact fun _ => trivial
  · trivial

theorem sound_cachedIds :
    Sound T (fun found => ∀ ids, found = some ids →
      ∃ text, T.finds listKey text ∧ readIds? text = some ids) repo.cachedIds := by
  refine (repo.sound_lookUp "enabled_list" listKey).andThen fun text htext ids hids => ?_
  obtain ⟨t, rfl, hread⟩ := Option.bind_eq_some_iff.mp hids
  exact ⟨t, htext t rfl, hread⟩

/-- That a rule may be found in the cache under an identifier. -/
def Offers (T : Terms) (id : Uuid) (r : Rule) : Prop :=
  ∃ text, T.finds (ruleKey id) text ∧ Rule.read? text = some r

/-- That a rule may be put into the cache. -/
def Takes (T : Terms) (r : Rule) : Prop := ∀ id, r.id = some id → T.fits (ruleKey id) r.text

theorem sound_cachedRule (id : Uuid) :
    Sound T (fun found => ∀ r, found = some r → Offers T id r) (repo.cachedRule id) := by
  refine (repo.sound_lookUp "rule" (ruleKey id)).andThen fun text htext r hr => ?_
  obtain ⟨t, rfl, hread⟩ := Option.bind_eq_some_iff.mp hr
  exact ⟨t, htext t rfl, hread⟩

/-- What was found for some identifiers: something for each of them, and no rule that the cache may
not offer. -/
structure FoundFor (T : Terms) (ids : List Uuid) (found : List (Uuid × Option Rule)) : Prop where
  ids_eq : found.map Prod.fst = ids
  offers : ∀ id r, (id, some r) ∈ found → Offers T id r

theorem sound_cachedRules (ids : List Uuid) : Sound T (FoundFor T ids) (repo.cachedRules ids) := by
  induction ids with
  | nil => exact ⟨rfl, fun _ _ h => nomatch h⟩
  | cons id rest ih =>
    refine (repo.sound_cachedRule id).andThen fun r hr => ih.andThen fun others hothers => ?_
    refine ⟨by rw [List.map_cons, hothers.ids_eq], fun id' q hmem => ?_⟩
    rcases List.mem_cons.mp hmem with heq | hmem
    · cases heq
      exact hr q rfl
    · exact hothers.offers id' q hmem

theorem sound_cacheRule {r : Rule} (h : Takes T r) :
    Sound T (fun _ => True) (repo.cacheRule r) := by
  unfold cacheRule
  split
  next => trivial
  next id hid => exact repo.sound_keep (h id hid) repo.ruleTtl

theorem sound_cacheRules {rules : List Rule} (h : ∀ r ∈ rules, Takes T r) :
    Sound T (fun _ => True) (repo.cacheRules rules) := by
  induction rules with
  | nil => trivial
  | cons r rest ih =>
    refine (repo.sound_cacheRule (h r (List.mem_cons_self ..))).andThen fun _ _ => ?_
    exact ih fun q hq => h q (List.mem_cons_of_mem _ hq)

theorem sound_cacheEnabled {rules : List Rule}
    (hlist : T.fits listKey (idsText (rules.filterMap (·.id)))) (h : ∀ r ∈ rules, Takes T r) :
    Sound T (fun _ => True) (repo.cacheEnabled rules) :=
  (repo.sound_keep hlist repo.listTtl).andThen fun _ _ => repo.sound_cacheRules h

/-- That a store may be asked something, and what comes of each of its answers. -/
structure Serves (T : Terms) (c : StoreCall) (answered : c.Answer → Prop)
    (failed : RuleFault → Prop) : Prop where
  asks : T.asks c
  ok : ∀ a, T.tells c (.ok a) → answered a
  error : ∀ e, T.tells c (.error e) → failed e

/-- Goes on with what a store answers. -/
theorem sound_askStore {β : Type} {c : StoreCall} {answered : c.Answer → Prop}
    {good : Except RuleFault β → Prop} {f : c.Answer → Work (Except RuleFault β)}
    (h : Serves T c answered fun e => good (.error e))
    (hf : ∀ a, answered a → Sound T good (f a)) :
    Sound T good (Program.orFail (Work.askStore c) f) := by
  refine ⟨h.asks, fun x hx => ?_⟩
  cases x with
  | ok a => exact hf a (h.ok a hx)
  | error e => exact h.error e hx

/-- A list is resolved well if what is found in the cache makes a good answer, alone or together
with what the store answers for the rest. -/
theorem sound_resolveIds {good : Except RuleFault (List Rule) → Prop} {ids : List Uuid}
    (hall : ∀ found, FoundFor T ids found → missing found = [] → good (.ok (assemble found [])))
    (hsome : ∀ found, FoundFor T ids found → missing found ≠ [] →
      Serves T (.fetchByIds (missing found))
        (fun rules => (∀ r ∈ rules, Takes T r) ∧ good (.ok (assemble found rules)))
        fun e => good (.error e)) :
    Sound T good (repo.resolveIds ids) := by
  refine (repo.sound_cachedRules ids).andThen fun found hfound => ?_
  have hall' := hall found hfound
  have hsome' := hsome found hfound
  -- The match is on what is missing, which is nothing a case split on `found` would reduce.
  generalize missing found = absent at hall' hsome'
  match absent with
  | [] => exact hall' rfl
  | id :: rest =>
    refine sound_askStore (hsome' fun h => nomatch h) fun rules hrules => ?_
    exact (repo.sound_cacheRules hrules.1).andThen fun _ _ => hrules.2

/-- The enabled rules are answered well if a cached list is resolved well, and so is what the store
lists. -/
theorem sound_enabledRules {good : Except RuleFault (List Rule) → Prop}
    (hcached : ∀ text ids, T.finds listKey text → readIds? text = some ids →
      Sound T (fun x => good (x.map Rule.sortByPriority)) (repo.resolveIds ids))
    (hstore : Serves T .fetchEnabled
      (fun rules => T.fits listKey (idsText (rules.filterMap (·.id))) ∧
        (∀ r ∈ rules, Takes T r) ∧ good (.ok (Rule.sortByPriority rules)))
      fun e => good (.error e)) :
    Sound T good repo.enabledRules := by
  refine repo.sound_cachedIds.andThen fun found hfound => ?_
  cases found with
  | some ids =>
    obtain ⟨text, hfinds, hread⟩ := hfound ids rfl
    exact (hcached text ids hfinds hread).orFail (fun _ h => h) fun _ h => h
  | none =>
    refine sound_askStore hstore fun rules hrules => ?_
    exact (repo.sound_cacheEnabled hrules.1 hrules.2.1).andThen fun _ _ => hrules.2.2

/-- A rule is answered well if a cached one is good, and so is what the store has. -/
theorem sound_byId {good : Except RuleFault (Option Rule) → Prop} {id : Uuid}
    (hcached : ∀ r, Offers T id r → good (.ok (some r)))
    (hstore : Serves T (.fetchById id)
      (fun found => (∀ r, found = some r → Takes T r) ∧ good (.ok found))
      fun e => good (.error e)) :
    Sound T good (repo.byId id) := by
  refine (repo.sound_cachedRule id).andThen fun found hfound => ?_
  cases found with
  | some r => exact hcached r (hfound r rfl)
  | none =>
    refine sound_askStore hstore fun found hgood => ?_
    cases found with
    | some r => exact (repo.sound_cacheRule (hgood.1 r rfl)).andThen fun _ _ => hgood.2
    | none => exact hgood.2

theorem sound_forgetRule (id : Uuid) : Sound T (fun _ => True) (repo.forgetRule id) :=
  (repo.sound_forget (ruleKey id)).andThen fun _ _ => repo.sound_forget listKey

theorem sound_create {good : Except RuleFault Rule → Prop} {r : Rule}
    (hstore : Serves T (.insert r) (fun stored => good (.ok stored)) fun e => good (.error e)) :
    Sound T good (repo.create r) :=
  sound_askStore hstore fun _ hstored => (repo.sound_forget listKey).andThen fun _ _ => hstored

theorem sound_update {good : Except RuleFault (Option Rule) → Prop} {r : Rule}
    (hnone : r.id = none → good (.ok none))
    (hstore : Serves T (.update r) (fun stored => good (.ok stored)) fun e => good (.error e)) :
    Sound T good (repo.update r) := by
  unfold update
  split
  next hid => exact hnone hid
  next id hid =>
    refine sound_askStore hstore fun stored hstored => ?_
    cases stored with
    | none => exact hstored
    | some q => exact (repo.sound_forgetRule id).andThen fun _ _ => hstored

theorem sound_delete {good : Except RuleFault Bool → Prop} {id : Uuid}
    (hstore : Serves T (.remove id) (fun removed => good (.ok removed)) fun e => good (.error e)) :
    Sound T good (repo.delete id) := by
  refine sound_askStore hstore fun removed hremoved => ?_
  cases removed with
  | false => exact hremoved
  | true => exact (repo.sound_forgetRule id).andThen fun _ _ => hremoved

end Repository

end AlertRules
