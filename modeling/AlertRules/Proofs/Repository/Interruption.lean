import AlertRules.Proofs.Repository.Writing

/-!
# Operations cut off

An operation may be given up after any of its requests. A read that is given up does no harm: every
entry it has made fits. A write does, if it is given up between its call on the store and the last
of its deletions: what stood under the keys it did not get to delete is still there, and need not
fit any more.

> `agrees_of_cut_iff`: after any part of an operation all entries fit if and only if under each of
> the keys it may invalidate (`RuleOperation.touches`) and has not deleted there is nothing, or
> something that fits the rules as they are now. If so, every later read answers what the store has.

`stale_after_cut` is a case in which it is not so: an update that is given up after its call on the
store.
-/

namespace AlertRules

namespace RuleOperation

open Repository (ruleKey listKey)

/-- The keys an operation may invalidate. -/
def touches : RuleOperation → List String
  | enabledRules | byId _ => []
  | create _ => [listKey]
  | update r =>
    match r.id with
    | some id => [ruleKey id, listKey]
    | none => []
  | delete id => [ruleKey id, listKey]

/-- What an answer makes stale is among them. -/
theorem mem_touches_of_stale {op : RuleOperation} {wr : Write} (h : op.write? = some wr)
    {x : Except RuleFault wr.call.Answer} {key : String} (hkey : key ∈ wr.stale x) :
    key ∈ op.touches := by
  cases op with
  | enabledRules => exact nomatch h
  | byId id => exact nomatch h
  | create r =>
    cases h
    cases x with
    | error e => exact nomatch hkey
    | ok stored => exact hkey
  | update r =>
    obtain ⟨id, hid, heq⟩ := Option.map_eq_some_iff.mp h
    cases heq
    rw [touches, hid]
    match x with
    | .error e => exact nomatch hkey
    | .ok none => exact nomatch hkey
    | .ok (some stored) => exact hkey
  | delete id =>
    cases h
    match x with
    | .error e => exact nomatch hkey
    | .ok false => exact nomatch hkey
    | .ok true => exact hkey

theorem touches_of_read {op : RuleOperation} (h : op.isRead) : op.touches = [] := by
  cases op with
  | enabledRules => rfl
  | byId id => rfl
  | create r => exact nomatch h
  | update r => exact nomatch h
  | delete id => exact nomatch h

end RuleOperation

variable {σ : Type} {S : RuleStore σ} {hz : Hazards} {w w' : World σ}

/-- A store keeps its side of the terms of reads. Unless it is available, it may fail. -/
theorem RuleStore.reading (S : RuleStore σ) (rules : List Rule) (c : StoreCall) (s : σ)
    (hread : (Terms.reading rules (¬ S.Available)).asks c) (hs : S.rules s = rules) :
    (Terms.reading rules (¬ S.Available)).tells c (S.answer c s).1 ∧
      S.rules (S.answer c s).2 = rules := by
  subst hs
  have hlawful := S.lawful c s
  have hsame := hlawful.of_read hread
  rw [hsame] at hlawful
  refine ⟨⟨hlawful, ?_⟩, hsame⟩
  by_cases havail : S.Available
  · obtain ⟨a, ha⟩ := havail c s hread
    exact .inr ⟨a, congrArg Prod.fst ha⟩
  · exact .inl havail

namespace Repository

variable {repo : Repository}

/-- Every part of a read leaves the rules as they are, and only entries that fit; what it comes to
is what the store has. -/
theorem agrees_of_read (hagrees : w.Agrees S) (hrules : ∀ r ∈ S.rules w.store, r.Faithful)
    {op : RuleOperation} (hread : op.isRead) {trace : List Exchange} {p : Work RuleReply}
    (hrun : Reaches S hz (repo.perform op) w trace p w') :
    w'.Agrees S ∧ S.rules w'.store = S.rules w.store ∧
      Sound (.reading (S.rules w.store) (¬ S.Available))
        (Reads (S.rules w.store) (¬ S.Available) op) p := by
  have hsound : Sound (.reading (S.rules w.store) (¬ S.Available))
      (Reads (S.rules w.store) (¬ S.Available) op) (repo.perform op) :=
    repo.sound_perform (S.wellKept w.store) hrules hread
  obtain ⟨hholds, hrest, hsame⟩ := Sound.reaches (K := fun s => S.rules s = S.rules w.store)
    (S.reading (S.rules w.store)) hrun hsound hagrees rfl
  refine ⟨fun key text hkey => ?_, hsame, hrest⟩
  rw [hsame]
  exact hholds key text hkey

/-- What a part of a write has done: nothing yet, or its call on the store and some of its
deletions. -/
theorem reaches_write (hcached : repo.cached = true) (hdelete : ¬ hz.fails .delete)
    {op : RuleOperation} {wr : Write} (hwr : op.write? = some wr) {trace : List Exchange}
    {p : Work RuleReply} (hrun : Reaches S hz (repo.perform op) w trace p w') :
    (trace = [] ∧ w' = w) ∨
      ∃ w₁ trace', w.Fades hz w₁ ∧
        trace = ⟨.store wr.call, (S.answer wr.call w.store).1⟩ :: trace' ∧
        Forgot hz trace' { w₁ with store := (S.answer wr.call w.store).2 } w' := by
  rw [perform_write repo hwr] at hrun
  rcases Reaches.of_ask hrun with ⟨rfl, -, rfl⟩ | ⟨w₁, x, w₂, trace', hfade, hstep, hrest, rfl⟩
  · exact .inl ⟨rfl, rfl⟩
  · obtain ⟨rfl, rfl⟩ := hstep.of_store
    rw [hfade.store_eq] at hrest ⊢
    refine .inr ⟨w₁, trace', hfade, rfl, ?_⟩
    rcases Reaches.of_andThen hrest with
      ⟨p', hforget, -⟩ | ⟨trace₁, ⟨⟩, w₃, trace₂, hforget, hdone, rfl⟩
    · exact (forgot_of_reaches hcached hdelete hforget).1
    · obtain ⟨rfl, -, rfl⟩ := Reaches.of_done hdone
      rw [List.append_nil]
      exact (forgot_of_reaches hcached hdelete hforget).1

/-- What a write that is given up leaves in the cache. -/
theorem agrees_of_cut_write_iff (hcached : repo.cached = true) (hexpiry : ¬ hz.expiry)
    (hdelete : ¬ hz.fails .delete) (hagrees : w.Agrees S) {op : RuleOperation} {wr : Write}
    (hwr : op.write? = some wr) {trace : List Exchange} {p : Work RuleReply}
    (hrun : Reaches S hz (repo.perform op) w trace p w') :
    w'.Agrees S ↔ ∀ key ∈ op.touches, ¬ Deleted trace key →
      ∀ text, w.entries key = some text → Fits (S.rules w'.store) key text := by
  rcases reaches_write hcached hdelete hwr hrun with ⟨-, rfl⟩ | ⟨w₁, trace', hfade, rfl, hforgot⟩
  · exact ⟨fun _ key _ _ text hkey => hagrees key text hkey, fun _ => hagrees⟩
  · have hsame : ∀ key text, w.entries key = some text → w₁.entries key = some text := by
      rcases hfade with rfl | ⟨hfades, -, -⟩
      · exact fun _ _ h => h
      · exact absurd hfades hexpiry
    have hdeleted : ∀ key, Deleted (⟨.store wr.call, (S.answer wr.call w.store).1⟩ :: trace') key ↔
        Deleted trace' key := by
      intro key
      constructor
      · rintro ⟨x, hx⟩
        rcases List.mem_cons.mp hx with heq | hx
        · cases heq
        · exact ⟨x, hx⟩
      · rintro ⟨x, hx⟩
        exact ⟨x, List.mem_cons_of_mem _ hx⟩
    constructor
    · intro hagrees' key _ hnot text hkey
      refine hagrees' key text (hforgot.rest hexpiry key text (hsame key text hkey) ?_)
      exact fun h => hnot ((hdeleted key).mpr h)
    · intro hkeys key text hkey
      obtain ⟨hkey₁, hnot⟩ := hforgot.subset key text hkey
      have hbefore := hfade.entries hkey₁
      -- An entry under a key that the call has not made stale fits as before it.
      by_cases hstale : key ∈ wr.stale (S.answer wr.call w.store).1
      · exact hkeys key (RuleOperation.mem_touches_of_stale hwr hstale)
          (fun h => hnot ((hdeleted key).mp h)) text hbefore
      · rw [hforgot.store_eq]
        exact fits_after hwr (S.wellKept _) (S.lawful wr.call w.store) hstale
          (hagrees key text hbefore)

/-- Faithful rules stay so, whatever part of an operation is done. -/
theorem faithful_of_cut (hcached : repo.cached = true) (hdelete : ¬ hz.fails .delete)
    (hagrees : w.Agrees S) (hrules : ∀ r ∈ S.rules w.store, r.Faithful) {op : RuleOperation}
    (hop : op.Faithful) {trace : List Exchange} {p : Work RuleReply}
    (hrun : Reaches S hz (repo.perform op) w trace p w') : ∀ r ∈ S.rules w'.store, r.Faithful := by
  cases hwr : op.write? with
  | some wr =>
    rcases reaches_write hcached hdelete hwr hrun with ⟨-, rfl⟩ | ⟨w₁, trace', -, -, hforgot⟩
    · exact hrules
    · rw [hforgot.store_eq]
      exact (S.lawful wr.call w.store).faithful (faithful_call hwr hop) hrules
  | none =>
    rcases write?_eq_none hwr with hread | hnothing
    · rw [(agrees_of_read hagrees hrules hread hrun).2.1]
      exact hrules
    · rw [hnothing] at hrun
      obtain ⟨-, -, rfl⟩ := Reaches.of_done hrun
      exact hrules

/-- **When it does no harm to give an operation up.** From a world in which all entries fit, after
any part of an operation they all fit if and only if under each key the operation may invalidate and
has not deleted yet there was nothing, or something that fits the rules as they are now. If so,
every later read answers what the store has. -/
theorem agrees_of_cut_iff (hcached : repo.cached = true) (hexpiry : ¬ hz.expiry)
    (hdelete : ¬ hz.fails .delete) (hagrees : w.Agrees S)
    (hrules : ∀ r ∈ S.rules w.store, r.Faithful) {op : RuleOperation} (hop : op.Faithful)
    {trace : List Exchange} {p : Work RuleReply}
    (hrun : Reaches S hz (repo.perform op) w trace p w') :
    (w'.Agrees S ↔ ∀ key ∈ op.touches, ¬ Deleted trace key →
      ∀ text, w.entries key = some text → Fits (S.rules w'.store) key text) ∧
    (w'.Agrees S → ∀ {hz' : Hazards} {later : RuleOperation} {trace' : List Exchange}
      {reply : RuleReply} {w'' : World σ}, later.isRead →
        Reaches S hz' (repo.perform later) w' trace' (.done reply) w'' →
          Reads (S.rules w'.store) (¬ S.Available) later reply) := by
  constructor
  · cases hwr : op.write? with
    | some wr => exact agrees_of_cut_write_iff hcached hexpiry hdelete hagrees hwr hrun
    | none =>
      rcases write?_eq_none hwr with hread | hnothing
      · have hagrees' := (agrees_of_read hagrees hrules hread hrun).1
        rw [RuleOperation.touches_of_read hread]
        exact ⟨fun _ _ hkey => (nomatch hkey), fun _ => hagrees'⟩
      · rw [hnothing] at hrun
        obtain ⟨-, -, rfl⟩ := Reaches.of_done hrun
        exact ⟨fun _ key _ _ text hkey => hagrees key text hkey, fun _ => hagrees⟩
  · intro hagrees' hz' later trace' reply w'' hread hlater
    have hrules' := faithful_of_cut hcached hdelete hagrees hrules hop hrun
    exact (agrees_of_read hagrees' hrules' hread hlater).2.2

/-- A creation that is given up after its call on the store, while another rule is cached, does no
harm: the cached rule is untouched, and no list is cached. -/
theorem agrees_of_cut_create :
    ∃ trace p w', trace.length = 1 ∧
      Reaches Memory.store .calm ((Repository.mk true 60 300).perform (.create (.onStatus "down")))
        (warmSingle (.onStatus "up")) trace p w' ∧ w'.Agrees Memory.store := by
  have hop : (RuleOperation.create (.onStatus "down")).Faithful := Rule.faithful_onStatus "down"
  have hrules := Memory.faithful_single (Rule.faithful_onStatus "up")
  have hagrees := agrees_warmSingle (Rule.faithful_onStatus "up")
  have hrun : Reaches Memory.store .calm
      ((Repository.mk true 60 300).perform (.create (.onStatus "down")))
      (warmSingle (.onStatus "up")) _ _ _ := .next (.inl rfl) .store (.refl _ _)
  refine ⟨_, _, _, rfl, hrun, (agrees_of_cut_iff rfl id id hagrees hrules hop hrun).1.mpr ?_⟩
  intro key htouched _ text htext
  obtain ⟨hkey, -⟩ := entries_warmSingle htext
  rw [List.mem_singleton.mp htouched] at hkey
  exact absurd hkey.symm (ruleKey_ne_listKey _)

/-- An update that is given up after its call on the store leaves the old rule in the cache, and the
next read answers it, although the store has the new one. -/
theorem stale_after_cut :
    ∃ trace p w', trace.length = 1 ∧
      (warmSingle (.onStatus "up")).Agrees Memory.store ∧
      Reaches Memory.store .calm ((Repository.mk true 60 300).perform
        (.update { Rule.onStatus "down" with id := some (.ofNat 1) }))
        (warmSingle (.onStatus "up")) trace p w' ∧
      ¬ w'.Agrees Memory.store ∧
      ∃ trace' w'',
        Reaches Memory.store .calm ((Repository.mk true 60 300).perform (.byId (.ofNat 1)))
          w' trace'
          (.done (.rule (.ok (some { Rule.onStatus "up" with id := some (.ofNat 1) })))) w'' ∧
      (ruleWith? (Memory.store.rules w'.store) (.ofNat 1)).map (·.name) = some "down" := by
  have hagrees := agrees_warmSingle (Rule.faithful_onStatus "up")
  have hentry := entries_warmSingle_self (.onStatus "up")
  have hread := Rule.read?_onStatus "up" (some (.ofNat 1))
  have hrun : Reaches Memory.store .calm ((Repository.mk true 60 300).perform
      (.update { Rule.onStatus "down" with id := some (.ofNat 1) }))
      (warmSingle (.onStatus "up")) _ _ _ := .next (.inl rfl) .store (.refl _ _)
  have hstored : ∀ q, ruleWith? (Memory.store.rules (Memory.store.answer
      (.update { Rule.onStatus "down" with id := some (.ofNat 1) })
        (Memory.single (.onStatus "up"))).2) (.ofNat 1) = some q → q.name = "down" := by
    intro q hq
    cases hq
    rfl
  refine ⟨_, _, _, rfl, hagrees, hrun, fun hfits => ?_, _, _,
    reaches_byId_cached rfl hentry hread, rfl⟩
  have hup := hstored _ ((hfits _ _ hentry).rule _ rfl _ hread)
  exact absurd hup (by decide)

end Repository

end AlertRules
