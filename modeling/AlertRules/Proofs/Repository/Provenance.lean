import AlertRules.Proofs.Repository.Interleaving

/-!
# Where answers come from

Whatever goes wrong with the cache, and in whatever order operations make their requests, a rule
that a read answers is, as a whole, one that the store had under that identifier at some time. What
may go wrong is that it is not the one the store has now.

What a rule may have come from is `held`: all that the store has had under each identifier. An entry
of the cache is `Genuine` if it is of a rule that was held, or has no identifier twice. Operations
put only such entries there, and answer only from them or from the store (`sound_perform_genuine`).

A `Course` is what may become of a system, with all the states it has gone through. An operation
that is cut off is one that makes no more requests. While the cache holds only genuine entries, a
request leaves it so (`Traced.asks`), and so does a course (`Course.traced`).

> `answers_were_held`: in every course that begins with an empty cache, reads answer only rules that
> the store has had, and none twice.
-/

namespace AlertRules

open Repository

namespace Repository

/-! ## Rules that were held -/

variable {held : Uuid → Rule → Prop} {rules : List Rule}

/-- That an entry is of what was held: the text under the key of a rule is of one that was held
under its identifier, and the list has no identifier twice. -/
structure Genuine (held : Uuid → Rule → Prop) (key text : String) : Prop where
  rule : ∀ id r, key = ruleKey id → Rule.read? text = some r → r.id = some id ∧ held id r
  list : key = listKey → ∀ ids, readIds? text = some ids → ids.Nodup

/-- That everything some rules have under an identifier was held. -/
def Covers (held : Uuid → Rule → Prop) (rules : List Rule) : Prop :=
  ∀ id r, ruleWith? rules id = some r → held id r

theorem Covers.of_mem (h : Covers held rules) (hkept : WellKept rules) {r : Rule} (hr : r ∈ rules)
    {id : Uuid} (hid : r.id = some id) : held id r :=
  h id r (hkept.ruleWith?_eq_some_iff.mpr ⟨hr, hid⟩)

/-- An entry that fits the rules of a store is genuine if they were held. -/
theorem Fits.genuine {key text : String} (h : Fits rules key text) (hkept : WellKept rules)
    (hheld : Covers held rules) : Genuine held key text := by
  constructor
  · intro id r hkey hread
    have hwith := h.rule id hkey r hread
    exact ⟨(mem_of_ruleWith? hwith).2, hheld id r hwith⟩
  · intro hkey ids hread
    rw [h.list hkey ids hread]
    exact nodup_enabledIds hkept

/-- That some rules were held, each under an identifier of its own. -/
structure AllHeld (held : Uuid → Rule → Prop) (found : List Rule) : Prop where
  held : ∀ r ∈ found, ∃ id, r.id = some id ∧ held id r
  distinct : found.Pairwise fun a b => a.id ≠ b.id

theorem AllHeld.sortByPriority {found : List Rule} (h : AllHeld held found) :
    AllHeld held (Rule.sortByPriority found) := by
  refine ⟨fun r hr => h.held r (mem_sortByPriority.mp hr), ?_⟩
  exact ((List.mergeSort_perm _ _).pairwise_iff fun hne => hne.symm).mpr h.distinct

theorem allHeld_enabledOf (hkept : WellKept rules) (hheld : Covers held rules) :
    AllHeld held (enabledOf rules) := by
  refine ⟨fun r hr => ?_, hkept.enabledOf.distinct⟩
  have hmem := (List.mem_filter.mp hr).1
  obtain ⟨id, hid⟩ := Option.isSome_iff_exists.mp (hkept.numbered r hmem)
  exact ⟨id, hid, hheld.of_mem hkept hmem hid⟩

/-- A list is put together of rules that were held, if what was found and what was fetched is.
Whichever it comes from, the rule put under an identifier has that identifier. -/
theorem allHeld_assemble {ids : List Uuid} {found : List (Uuid × Option Rule)} {fetched : List Rule}
    (hnodup : ids.Nodup) (hids : found.map Prod.fst = ids)
    (hcached : ∀ id r, (id, some r) ∈ found → r.id = some id ∧ held id r)
    (hfetched : ∀ r ∈ fetched, ∀ id, r.id = some id → held id r) :
    AllHeld held (assemble found fetched) := by
  subst hids
  have hentry : ∀ e ∈ found, ∀ r, (e.2 <|> fetched? fetched e.1) = some r →
      r.id = some e.1 ∧ held e.1 r := by
    rintro ⟨id, cached⟩ he r hr
    cases cached with
    | some q =>
      obtain rfl := Option.some.inj hr
      exact hcached id q he
    | none =>
      have hlast : fetched? fetched id = some r := hr
      obtain ⟨hmem, hid⟩ := mem_of_fetched? hlast
      exact ⟨hid, hfetched r hmem id hid⟩
  rw [assemble_eq hnodup]
  constructor
  · intro r hr
    obtain ⟨e, he, hr⟩ := List.mem_filterMap.mp hr
    exact ⟨e.1, hentry e he r hr⟩
  · rw [List.pairwise_filterMap]
    refine (List.pairwise_map.mp hnodup).imp_of_mem fun {a b} ha hb hne r hr q hq heq => hne ?_
    rw [(hentry a ha r hr).1, (hentry b hb q hq).1] at heq
    exact Option.some.inj heq

/-! ## Operations -/

end Repository

/-- The terms of programs that work while the store has rules that count as held. -/
def Terms.genuine (held : Uuid → Rule → Prop) : Terms where
  asks := StoreCall.Faithful
  tells c x := ∃ before after, WellKept before ∧ (∀ r ∈ before, r.Faithful) ∧
    Covers held before ∧ c.Outcome before x after
  finds := Genuine held
  fits := Genuine held
  finds_of_fits := id

/-- That an answer is good, unless there is only a fault. -/
def IfAnswered {α : Type} (good : α → Prop) : Except RuleFault α → Prop
  | .ok a => good a
  | .error _ => True

namespace Repository

variable {held : Uuid → Rule → Prop} (repo : Repository)

/-- What a store answers of a read on these terms. -/
theorem serves_genuine {c : StoreCall} {answered : c.Answer → Prop} {failed : RuleFault → Prop}
    (hread : c.isRead)
    (hok : ∀ rules a, WellKept rules → (∀ r ∈ rules, r.Faithful) → Covers held rules →
      c.Effect rules a rules → answered a) (herror : ∀ f, failed f) :
    Serves (.genuine held) c answered failed := by
  refine ⟨StoreCall.faithful_of_read hread, fun a ha => ?_, fun f _ => herror f⟩
  obtain ⟨rules, after, hkept, hfaithful, hheld, houtcome⟩ := ha
  have hsame : after = rules := houtcome.of_read hread
  rw [hsame] at houtcome
  exact hok rules a hkept hfaithful hheld houtcome

theorem takes_genuine {rules : List Rule} (hkept : WellKept rules)
    (hfaithful : ∀ r ∈ rules, r.Faithful) (hheld : Covers held rules) {r : Rule} (hr : r ∈ rules) :
    Takes (.genuine held) r := by
  intro id hid
  apply (fits_ruleKey _).genuine hkept hheld
  rw [hkept.ruleWith?_eq_some_iff.mpr ⟨hr, hid⟩]
  exact ruleFits_text (hfaithful r hr)

theorem of_offers_genuine {id : Uuid} {r : Rule} (h : Offers (.genuine held) id r) :
    r.id = some id ∧ held id r := by
  obtain ⟨text, hfinds, hread⟩ := h
  exact hfinds.rule id r rfl hread

theorem sound_byId_genuine (id : Uuid) :
    Sound (.genuine held) (IfAnswered fun found => ∀ r, found = some r → r.id = some id ∧ held id r)
      (repo.byId id) := by
  apply repo.sound_byId
  · rintro r hr q ⟨⟩
    exact of_offers_genuine hr
  · apply serves_genuine rfl
    · rintro rules found hkept hfaithful hheld ⟨rfl, -⟩
      refine ⟨fun r hr => ?_, fun r hr => ?_⟩
      · exact takes_genuine hkept hfaithful hheld (mem_of_ruleWith? hr).1
      · exact ⟨(mem_of_ruleWith? hr).2, hheld id r hr⟩
    · exact fun _ => trivial

theorem sound_resolveIds_genuine {ids : List Uuid} (hnodup : ids.Nodup) :
    Sound (.genuine held) (fun x => IfAnswered (AllHeld held) (x.map Rule.sortByPriority))
      (repo.resolveIds ids) := by
  -- Only what was fetched is different between the two cases.
  have hassemble : ∀ found fetched, FoundFor (.genuine held) ids found →
      (∀ r ∈ fetched, ∀ id, r.id = some id → held id r) →
        AllHeld held (Rule.sortByPriority (assemble found fetched)) := by
    intro found fetched hfound hfetched
    refine (allHeld_assemble hnodup hfound.ids_eq (fun id r hr => ?_) hfetched).sortByPriority
    exact of_offers_genuine (hfound.offers id r hr)
  apply repo.sound_resolveIds
  · exact fun found hfound _ => hassemble found [] hfound fun _ hr => nomatch hr
  · intro found hfound _
    apply serves_genuine rfl
    · rintro rules fetched hkept hfaithful hheld ⟨hfetched, -⟩
      refine ⟨fun r hr => ?_, hassemble found fetched hfound fun r hr id hid => ?_⟩
      · exact takes_genuine hkept hfaithful hheld ((hfetched r).mp hr).1
      · exact hheld.of_mem hkept ((hfetched r).mp hr).1 hid
    · exact fun _ => trivial

theorem sound_enabledRules_genuine :
    Sound (.genuine held) (IfAnswered (AllHeld held)) repo.enabledRules := by
  apply repo.sound_enabledRules
  · exact fun text ids hfinds hread => repo.sound_resolveIds_genuine (hfinds.list rfl ids hread)
  · apply serves_genuine rfl
    · rintro rules found hkept hfaithful hheld ⟨rfl, -⟩
      refine ⟨?_, fun r hr => ?_, (allHeld_enabledOf hkept hheld).sortByPriority⟩
      · exact (fits_listKey (listFits_idsText _)).genuine hkept hheld
      · exact takes_genuine hkept hfaithful hheld (List.mem_filter.mp hr).1
    · exact fun _ => trivial

/-- That what an operation answers was held: the rule with an identifier under that one, the enabled
rules each under one of its own. -/
inductive Answers (held : Uuid → Rule → Prop) : RuleOperation → RuleReply → Prop
  | enabledRules {x : Except RuleFault (List Rule)} (h : IfAnswered (AllHeld held) x) :
    Answers held .enabledRules (.rules x)
  | byId {id : Uuid} {x : Except RuleFault (Option Rule)}
    (h : IfAnswered (fun found => ∀ r, found = some r → r.id = some id ∧ held id r) x) :
    Answers held (.byId id) (.rule x)
  | create (r : Rule) (x : Except RuleFault Rule) : Answers held (.create r) (.created x)
  | update (r : Rule) (x : Except RuleFault (Option Rule)) : Answers held (.update r) (.updated x)
  | delete (id : Uuid) (x : Except RuleFault Bool) : Answers held (.delete id) (.deleted x)

/-- **Every operation puts into the cache only what is genuine, and answers only what was held.** -/
theorem sound_perform_genuine {op : RuleOperation} (hop : op.Faithful) :
    Sound (.genuine held) (Answers held op) (repo.perform op) := by
  cases op with
  | enabledRules => exact repo.sound_enabledRules_genuine.andThen fun _ h => .enabledRules h
  | byId id => exact (repo.sound_byId_genuine id).andThen fun _ h => .byId h
  | create r =>
    have hwrite : Sound (.genuine held) (fun _ => True) (repo.create r) :=
      repo.sound_create ⟨hop, fun _ _ => trivial, fun _ _ => trivial⟩
    exact hwrite.andThen fun x _ => .create r x
  | update r =>
    have hwrite : Sound (.genuine held) (fun _ => True) (repo.update r) :=
      repo.sound_update (fun _ => trivial) ⟨hop, fun _ _ => trivial, fun _ _ => trivial⟩
    exact hwrite.andThen fun x _ => .update r x
  | delete id =>
    have hwrite : Sound (.genuine held) (fun _ => True) (repo.delete id) :=
      repo.sound_delete ⟨trivial, fun _ _ => trivial, fun _ _ => trivial⟩
    exact hwrite.andThen fun x _ => .delete id x

end Repository

/-- The operation that is begun, if one is. -/
def Event.begun? : Event → Option RuleOperation
  | begins op => some op
  | asks _ _ => none

namespace System

variable {σ : Type} {S : RuleStore σ} {hz : Hazards} {repo : Repository}

/-! ## Courses -/

/-- What may become of a system: the operations that have been begun, in their order, and all the
states it has been in. -/
inductive Course (S : RuleStore σ) (hz : Hazards) (repo : Repository) (start : System σ) :
    List RuleOperation → List (System σ) → System σ → Prop
  | start : Course S hz repo start [] [start] start
  | begins {ops : List RuleOperation} {past : List (System σ)} {s : System σ} {op : RuleOperation}
    {p : Work RuleReply} (h : Course S hz repo start ops past s)
    (horder : Reorders (repo.perform op) p) :
    Course S hz repo start (ops ++ [op]) (past ++ [{ s with threads := s.threads ++ [p] }])
      { s with threads := s.threads ++ [p] }
  | asks {ops : List RuleOperation} {past : List (System σ)} {s s' : System σ} {i : Nat}
    {e : Exchange} (h : Course S hz repo start ops past s)
    (hstep : Step S hz repo s (.asks i e) s') :
    Course S hz repo start ops (past ++ [s']) s'

/-- What the store has had under identifiers. -/
def Held (S : RuleStore σ) (past : List (System σ)) (id : Uuid) (r : Rule) : Prop :=
  ∃ s ∈ past, ruleWith? (S.rules s.world.store) id = some r

variable {held : Uuid → Rule → Prop} {start s s' : System σ} {ops : List RuleOperation}
  {past : List (System σ)}

theorem Course.mem (h : Course S hz repo start ops past s) : s ∈ past := by
  cases h with
  | start => exact List.mem_singleton.mpr rfl
  | begins => exact List.mem_append_right _ (List.mem_singleton.mpr rfl)
  | asks => exact List.mem_append_right _ (List.mem_singleton.mpr rfl)

/-- What holds at every time of a course: rules are faithful, entries are genuine, and so is what
operations may still do. -/
structure Traced (S : RuleStore σ) (held : Uuid → Rule → Prop) (ops : List RuleOperation)
    (s : System σ) : Prop where
  faithful : ∀ r ∈ S.rules s.world.store, r.Faithful
  entries : (Terms.genuine held).Holds s.world
  length : s.threads.length = ops.length
  threads : ∀ (j : Nat) (op : RuleOperation) (p : Work RuleReply), ops[j]? = some op →
    s.threads[j]? = some p → Sound (.genuine held) (Answers held op) p

/-- An operation is begun. -/
theorem Traced.begins (h : Traced S held ops s) {op : RuleOperation} (hop : op.Faithful)
    {p : Work RuleReply} (horder : Reorders (repo.perform op) p) :
    Traced S held (ops ++ [op]) { s with threads := s.threads ++ [p] } := by
  refine ⟨h.faithful, h.entries, ?_, fun j op' q hop' hq => ?_⟩
  · rw [List.length_append, List.length_append, h.length]
    rfl
  · rcases thread_begins hq with hq | ⟨rfl, rfl⟩
    · have hlt : j < ops.length := h.length ▸ (List.getElem?_eq_some_iff.mp hq).1
      rw [List.getElem?_append_left hlt] at hop'
      exact h.threads j op' q hop' hq
    · rw [h.length, List.getElem?_concat_length] at hop'
      cases hop'
      exact horder.sound_iff.mp (repo.sound_perform_genuine hop)

/-- An operation makes a request. -/
theorem Traced.asks (h : Traced S held ops s) (hheld : Covers held (S.rules s.world.store))
    {i : Nat} {e : Exchange} (hstep : Step S hz repo s (.asks i e) s') : Traced S held ops s' := by
  cases hstep with
  | @asks _ r rest w₁ w₂ x hthread hfade hw =>
    obtain ⟨op, hop⟩ : ∃ op, ops[i]? = some op := by
      have hlt : i < ops.length := h.length ▸ (List.getElem?_eq_some_iff.mp hthread).1
      exact ⟨_, List.getElem?_eq_getElem hlt⟩
    have hsound := h.threads i op _ hop hthread
    have hentries := Terms.holds_fades h.entries hfade
    have hfaithful : ∀ r ∈ S.rules w₁.store, r.Faithful := hfade.store_eq ▸ h.faithful
    have htells : ∀ c, r = .store c → (Terms.genuine held).tells c (S.answer c w₁.store).1 :=
      fun c _ => ⟨_, _, S.wellKept _, hfaithful, hfade.store_eq ▸ hheld, S.lawful c _⟩
    obtain ⟨hkept, hrest⟩ := hsound.step hentries hw htells
    refine ⟨?_, fun key text htext => ?_, (List.length_set ..).trans h.length,
      fun j op' q hop' hq => ?_⟩
    · rcases hw.store_eq with ⟨c, rfl, hstore⟩ | hstore
      · show ∀ r ∈ S.rules w₂.store, r.Faithful
        rw [hstore]
        exact (S.lawful c _).faithful hsound.1 hfaithful
      · show ∀ r ∈ S.rules w₂.store, r.Faithful
        rw [hstore]
        exact hfaithful
    · exact (hkept key text htext).elim (hentries key text) id
    · rcases thread_asks hq with ⟨rfl, rfl⟩ | ⟨-, hq⟩
      · rw [hop] at hop'
        cases hop'
        exact hrest
      · exact h.threads j op' q hop' hq

/-- **A course** keeps to what was held, if that covers everything the store has in it. -/
theorem Course.traced (h : Course S hz repo start ops past s) (hstart : Traced S held [] start)
    (hops : ∀ op ∈ ops, op.Faithful)
    (hheld : ∀ s ∈ past, Covers held (S.rules s.world.store)) : Traced S held ops s := by
  induction h with
  | start => exact hstart
  | begins _ horder ih =>
    have hbefore := ih (fun op hop => hops op (List.mem_append_left _ hop))
      fun s hs => hheld s (List.mem_append_left _ hs)
    exact hbefore.begins (hops _ (List.mem_append_right _ (List.mem_singleton.mpr rfl))) horder
  | asks hcourse hstep ih =>
    have hbefore := ih hops fun s hs => hheld s (List.mem_append_left _ hs)
    exact hbefore.asks (hheld _ (List.mem_append_left _ hcourse.mem)) hstep

/-- **What a read answers was held.** Let operations that bring along faithful rules be begun at any
time, make their requests in any order and be cut off anywhere, while any call on the cache may fail
and any entry may vanish. From an empty cache, whenever one of them has returned, each rule it
answers is one that the store has had, whole, under its identifier; the rule with an identifier has
that one, and the enabled rules have each another one. -/
theorem answers_were_held {store : σ} (hrules : ∀ r ∈ S.rules store, r.Faithful)
    (h : Course S hz repo ⟨⟨store, fun _ => none⟩, []⟩ ops past s) (hops : ∀ op ∈ ops, op.Faithful)
    {i : Nat} {op : RuleOperation} {reply : RuleReply} (hop : ops[i]? = some op)
    (hreturned : s.threads[i]? = some (.done reply)) : Answers (Held S past) op reply := by
  have hstart : Traced S (Held S past) [] ⟨⟨store, fun _ => none⟩, []⟩ :=
    ⟨hrules, (fun _ _ htext => nomatch htext), rfl, fun _ _ _ hop => nomatch hop⟩
  have hend := h.traced hstart hops fun s hs id r hr => ⟨s, hs, hr⟩
  exact hend.threads i op _ hop hreturned

/-- Whatever happens takes a course further. -/
theorem Course.runs (h : Course S hz repo start ops past s) {events : List Event}
    (hrun : Runs S hz repo s events s') :
    ∃ past', Course S hz repo start (ops ++ events.filterMap Event.begun?) past' s' := by
  induction hrun generalizing ops past with
  | refl s => exact ⟨past, by rwa [List.filterMap_nil, List.append_nil]⟩
  | @next s s₁ s' e events hstep _ ih =>
    cases hstep with
    | @begins op p horder =>
      obtain ⟨past', h'⟩ := ih (h.begins horder)
      rw [List.append_assoc] at h'
      exact ⟨past', h'⟩
    | asks hthread hfade hw => exact ih (h.asks (.asks hthread hfade hw))

/-- An operation goes on alone. -/
theorem Course.alone (h : Course S hz repo start ops past s) {i : Nat} {p p' : Work RuleReply}
    {w' : World σ} {trace : List Exchange} (hthread : s.threads[i]? = some p)
    (hreaches : Reaches S hz p s.world trace p' w') :
    ∃ past', Course S hz repo start ops past' ⟨w', s.threads.set i p'⟩ := by
  obtain ⟨past', h'⟩ := h.runs (.alone hthread hreaches)
  have hnone : (trace.map (Event.asks i)).filterMap Event.begun? = [] := by
    rw [List.filterMap_map, List.filterMap_eq_nil_iff]
    exact fun _ _ => rfl
  rw [hnone, List.append_nil] at h'
  exact ⟨past', h'⟩

/-- An operation is begun, and goes on alone. -/
theorem Course.begins_alone (h : Course S hz repo start ops past s) {op : RuleOperation}
    {p : Work RuleReply} {w : World σ} {trace : List Exchange}
    (hreaches : Reaches S hz (repo.perform op) s.world trace p w) :
    ∃ past', Course S hz repo start (ops ++ [op]) past' ⟨w, s.threads ++ [p]⟩ := by
  obtain ⟨past', h'⟩ := (h.begins (.refl _)).alone List.getElem?_concat_length hreaches
  rw [List.set_append_right _ _ (Nat.le_refl _), Nat.sub_self, List.set_cons_zero] at h'
  exact ⟨past', h'⟩

/-- A rule is read, and updated before it is put into the cache. The read after that answers what
the rule was before the update, as the store had it. -/
theorem answers_were_held_late :
    ∃ ops past s old stored, Course Memory.store ⟨True, fun _ => True⟩ (Repository.mk true 60 300)
        ⟨⟨Memory.single (.onStatus "up"), fun _ => none⟩, []⟩ ops past s ∧
      ops[2]? = some (.byId (.ofNat 1)) ∧ s.threads[2]? = some (.done (.rule (.ok (some old)))) ∧
      ruleWith? (Memory.store.rules s.world.store) (.ofNat 1) = some stored ∧
      old.name = "up" ∧ stored.name = "down" ∧
      Answers (Held Memory.store past) (.byId (.ofNat 1)) (.rule (.ok (some old))) := by
  have hread := Rule.read?_onStatus "up" (some (.ofNat 1))
  obtain ⟨new, hnew, hdown, hfaithful, -⟩ := Rule.exists_faithful (.ofNat 1) "down"
  obtain ⟨stored, m, hupdate, -, hstored, -, hname, -⟩ :=
    Memory.exists_update_single (.onStatus "up") hnew
  have hold : Memory.store.answer (.fetchById (.ofNat 1)) (Memory.single (.onStatus "up")) =
    (.ok (some { Rule.onStatus "up" with id := some (.ofNat 1) }),
      Memory.single (.onStatus "up")) := rfl
  have hstart : Course Memory.store ⟨True, fun _ => True⟩ (Repository.mk true 60 300)
    ⟨⟨Memory.single (.onStatus "up"), fun _ => none⟩, []⟩ [] [_] _ := .start
  obtain ⟨_, hfetched⟩ := hstart.begins_alone (reaches_byId_missed rfl rfl rfl hold)
  obtain ⟨_, hupdated⟩ := hfetched.begins_alone
    (reaches_write_alone rfl (RuleOperation.write?_update hnew) hupdate)
  obtain ⟨_, hcached⟩ := hupdated.alone (i := 0) rfl (.next (.inl rfl) .set (.refl _ _))
  obtain ⟨past, hlate⟩ := hcached.begins_alone
    (reaches_byId_cached rfl (World.entries_put_self _ _ _) hread)
  refine ⟨_, past, _, _, stored, hlate, rfl, rfl, hstored, rfl, hname.trans hdown, ?_⟩
  refine answers_were_held (Memory.faithful_single (Rule.faithful_onStatus "up")) hlate ?_
    (i := 2) rfl rfl
  intro op hop
  simp only [List.nil_append, List.cons_append, List.mem_cons, List.not_mem_nil, or_false] at hop
  rcases hop with rfl | rfl | rfl
  · trivial
  · exact hfaithful
  · trivial

end System

end AlertRules
