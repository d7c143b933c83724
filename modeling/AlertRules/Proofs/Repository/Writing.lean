import AlertRules.Proofs.Repository.Reading

/-!
# Writes

A write makes one call on the store, and then takes from the cache the keys that its answer makes
stale (`Write`, `perform_write`). The keys are well chosen (`rules_after`): every entry that fitted
the rules before the call and is not under one of them fits the rules after it (`fits_after`). So a
write that gets to delete its keys leaves a world that agrees as it was (`agrees_of_write`).

> `agrees_of_write`: after a write whose deletions succeed all entries fit, and the store is as its
> one call left it.
-/

namespace AlertRules

/-- A write: its call on the store, the keys that are stale after an answer, and the reply. -/
structure Write where
  call : StoreCall
  stale : Except RuleFault call.Answer → List String
  reply : Except RuleFault call.Answer → RuleReply

namespace RuleOperation

open Repository (ruleKey listKey)

/-- The write an operation is. Reads are none, and an update without an identifier does nothing. -/
def write? : RuleOperation → Option Write
  | enabledRules | byId _ => none
  | create r => some {
      call := .insert r
      stale := fun
        | .ok _ => [listKey]
        | .error _ => []
      reply := .created }
  | update r => r.id.map fun id => {
      call := .update r
      stale := fun
        | .ok (some _) => [ruleKey id, listKey]
        | .ok none | .error _ => []
      reply := .updated }
  | delete id => some {
      call := .remove id
      stale := fun
        | .ok true => [ruleKey id, listKey]
        | .ok false | .error _ => []
      reply := .deleted }

theorem write?_update {r : Rule} {id : Uuid} (hid : r.id = some id) :
    (update r).write? = some {
      call := .update r
      stale := fun
        | .ok (some _) => [ruleKey id, listKey]
        | .ok none | .error _ => []
      reply := .updated } := by
  rw [write?, hid]
  rfl

end RuleOperation

namespace Repository

variable (repo : Repository)

/-- Takes keys from the cache. -/
def forgetAll : List String → Work Unit
  | [] => .done ()
  | key :: rest => (repo.forget key).andThen fun _ => forgetAll rest

theorem forget_andThen_forgetAll {α β : Type} (key : String) (a : α) (f : α → Work β) :
    ((repo.forget key).andThen fun _ => .done a).andThen f =
      (repo.forgetAll [key]).andThen fun _ => f a := by
  show _ = ((repo.forget key).andThen fun _ => .done ()).andThen _
  rw [Program.andThen_assoc, Program.andThen_assoc]
  rfl

theorem forgetRule_andThen_forgetAll {α β : Type} (id : Uuid) (a : α) (f : α → Work β) :
    ((repo.forgetRule id).andThen fun _ => .done a).andThen f =
      (repo.forgetAll [ruleKey id, listKey]).andThen fun _ => f a := by
  show (((repo.forget (ruleKey id)).andThen fun _ => repo.forget listKey).andThen _).andThen _ =
    ((repo.forget (ruleKey id)).andThen fun _ => repo.forgetAll [listKey]).andThen _
  rw [Program.andThen_assoc, Program.andThen_assoc, Program.andThen_assoc]
  congr 1
  funext _
  rw [← forget_andThen_forgetAll, Program.andThen_assoc]

/-- A write asks the store, and then forgets what is stale. -/
theorem perform_write {op : RuleOperation} {wr : Write} (h : op.write? = some wr) :
    repo.perform op = .ask (.store wr.call) fun x =>
      (repo.forgetAll (wr.stale x)).andThen fun _ => .done (wr.reply x) := by
  cases op with
  | enabledRules => exact nomatch h
  | byId id => exact nomatch h
  | create r =>
    cases h
    rw [perform, create, Program.orFail_andThen]
    show Program.ask _ _ = Program.ask _ _
    congr 1
    funext x
    cases x with
    | error e => rfl
    | ok stored => exact repo.forget_andThen_forgetAll listKey _ _
  | update r =>
    obtain ⟨id, hid, heq⟩ := Option.map_eq_some_iff.mp h
    cases heq
    rw [perform, update, hid]
    dsimp only
    rw [Program.orFail_andThen]
    show Program.ask _ _ = Program.ask _ _
    congr 1
    funext x
    rcases x with e | _ | stored
    · rfl
    · rfl
    · exact repo.forgetRule_andThen_forgetAll id _ _
  | delete id =>
    cases h
    rw [perform, delete, Program.orFail_andThen]
    show Program.ask _ _ = Program.ask _ _
    congr 1
    funext x
    rcases x with e | _ | _
    · rfl
    · rfl
    · exact repo.forgetRule_andThen_forgetAll id _ _

/-- An operation that is no read either writes or does nothing. -/
theorem write?_eq_none {op : RuleOperation} (h : op.write? = none) :
    op.isRead = true ∨ ∀ repo : Repository, repo.perform op = .done (.updated (.ok none)) := by
  cases op with
  | enabledRules => exact .inl rfl
  | byId id => exact .inl rfl
  | create r => cases h
  | update r =>
    refine .inr fun repo => ?_
    rw [perform, update, Option.map_eq_none_iff.mp h]
    rfl
  | delete id => cases h

/-! ## What a write makes stale -/

/-- Changing one rule leaves every rule whose key is another one. -/
theorem ruleWith?_of_others {before after : List Rule} {key : String} {id id' : Uuid} {r : Rule}
    (hafter : WellKept after) (hmem : ∀ q ∈ before, q.id ≠ some id → q ∈ after)
    (hne : key ≠ ruleKey id) (hkey : key = ruleKey id') (hr : ruleWith? before id' = some r) :
    ruleWith? after id' = some r := by
  obtain ⟨hrmem, hrid⟩ := mem_of_ruleWith? hr
  have hother : r.id ≠ some id := by
    rw [hrid]
    intro hsame
    exact hne (hkey.trans (congrArg _ (Option.some.inj hsame)))
  exact hafter.ruleWith?_eq_some_iff.mpr ⟨hmem r hrmem hother, hrid⟩

/-- **What a write does not make stale:** if it is the key of a rule, that rule is still there as it
was, and if it is the key of the list, nothing has changed. -/
theorem rules_after {op : RuleOperation} {wr : Write} (h : op.write? = some wr)
    {before after : List Rule} {x : Except RuleFault wr.call.Answer} (hafter : WellKept after)
    (hx : wr.call.Outcome before x after) {key : String} (hkey : key ∉ wr.stale x) :
    (∀ id r, key = ruleKey id → ruleWith? before id = some r → ruleWith? after id = some r) ∧
      (key = listKey → after = before) := by
  have hunchanged : after = before →
      (∀ id r, key = ruleKey id → ruleWith? before id = some r → ruleWith? after id = some r) ∧
        (key = listKey → after = before) := by
    rintro rfl
    exact ⟨fun _ _ _ hr => hr, fun _ => rfl⟩
  cases op with
  | enabledRules => exact nomatch h
  | byId id => exact nomatch h
  | create r =>
    cases h
    cases x with
    | error e => exact hunchanged hx
    | ok stored =>
      obtain ⟨-, hmem⟩ := hx
      refine ⟨fun id q _ hq => ?_, fun heq => absurd (List.mem_singleton.mpr heq) hkey⟩
      obtain ⟨hqmem, hqid⟩ := mem_of_ruleWith? hq
      exact hafter.ruleWith?_eq_some_iff.mpr ⟨(hmem q).mpr (.inr hqmem), hqid⟩
  | update r =>
    obtain ⟨id, hid, heq⟩ := Option.map_eq_some_iff.mp h
    cases heq
    match x with
    | .error e => exact hunchanged hx
    | .ok none => exact hunchanged hx.2
    | .ok (some stored) =>
      obtain ⟨-, -, hmem⟩ := hx
      obtain ⟨hrule, hlist⟩ := not_or.mp (List.mem_pair.not.mp hkey)
      have hothers : ∀ q ∈ before, q.id ≠ some id → q ∈ after := fun q hq hne =>
        (hmem q).mpr (.inr ⟨hq, hid ▸ hne⟩)
      exact ⟨fun _ _ => ruleWith?_of_others hafter hothers hrule, fun heq => absurd heq hlist⟩
  | delete id =>
    cases h
    match x with
    | .error e => exact hunchanged hx
    | .ok false => exact hunchanged (hx.2.1 rfl)
    | .ok true =>
      obtain ⟨-, -, hmem⟩ := hx
      obtain ⟨hrule, hlist⟩ := not_or.mp (List.mem_pair.not.mp hkey)
      have hothers : ∀ q ∈ before, q.id ≠ some id → q ∈ after := fun q hq hne =>
        (hmem q).mpr ⟨hq, hne⟩
      exact ⟨fun _ _ => ruleWith?_of_others hafter hothers hrule, fun heq => absurd heq hlist⟩

/-- **Every entry that fits before a write, and is not under a key it makes stale, fits after
it.** -/
theorem fits_after {op : RuleOperation} {wr : Write} (h : op.write? = some wr)
    {before after : List Rule} {x : Except RuleFault wr.call.Answer} (hafter : WellKept after)
    (hx : wr.call.Outcome before x after) {key text : String} (hkey : key ∉ wr.stale x)
    (hfits : Fits before key text) : Fits after key text := by
  obtain ⟨hrule, hlist⟩ := rules_after h hafter hx hkey
  constructor
  · intro id hid r hread
    exact hrule id r hid (hfits.rule id hid r hread)
  · intro heq
    rw [hlist heq]
    exact hfits.list heq

/-- A write of a faithful rule brings it along. -/
theorem faithful_call {op : RuleOperation} {wr : Write} (h : op.write? = some wr)
    (hop : op.Faithful) : wr.call.Faithful := by
  cases op with
  | enabledRules => exact nomatch h
  | byId id => exact nomatch h
  | create r =>
    cases h
    exact hop
  | update r =>
    obtain ⟨id, -, heq⟩ := Option.map_eq_some_iff.mp h
    cases heq
    exact hop
  | delete id =>
    cases h
    trivial

end Repository

/-! ## Runs of writes -/

/-- That a run has taken a key from the cache. -/
def Deleted (trace : List Exchange) (key : String) : Prop :=
  ∃ x, (⟨.cache (.delete key), x⟩ : Exchange) ∈ trace

/-- What a part of a run has done that only takes keys from a cache. -/
structure Forgot {σ : Type} (hz : Hazards) (trace : List Exchange) (w w' : World σ) : Prop where
  store_eq : w'.store = w.store
  /-- What is left was there, and has not been taken. -/
  subset : ∀ key text, w'.entries key = some text → w.entries key = some text ∧ ¬ Deleted trace key
  /-- What was there and has not been taken is left, unless entries vanish. -/
  rest : ¬ hz.expiry → ∀ key text, w.entries key = some text → ¬ Deleted trace key →
    w'.entries key = some text

theorem not_deleted_nil {key : String} : ¬ Deleted [] key := fun ⟨_, h⟩ => nomatch h

theorem Forgot.refl {σ : Type} (hz : Hazards) (w : World σ) : Forgot hz [] w w :=
  ⟨rfl, fun _ _ h => ⟨h, not_deleted_nil⟩, fun _ _ _ h _ => h⟩

theorem deleted_cons {trace : List Exchange} {key k : String} {x : Except RuleFault Unit} :
    Deleted (⟨.cache (.delete key), x⟩ :: trace) k ↔ k = key ∨ Deleted trace k := by
  constructor
  · rintro ⟨y, h⟩
    rcases List.mem_cons.mp h with h | h
    · cases h
      exact .inl rfl
    · exact .inr ⟨y, h⟩
  · rintro (rfl | ⟨y, h⟩)
    · exact ⟨x, List.mem_cons_self ..⟩
    · exact ⟨y, List.mem_cons_of_mem _ h⟩

/-- Taking one key, and then going on to take others. -/
theorem Forgot.cons {σ : Type} {hz : Hazards} {trace : List Exchange} {w w₁ w' : World σ}
    {key : String} {x : Except RuleFault Unit} (hfade : w.Fades hz w₁)
    (h : Forgot hz trace (w₁.drop key) w') :
    Forgot hz (⟨.cache (.delete key), x⟩ :: trace) w w' := by
  refine ⟨?_, fun k text hk => ?_, fun hexpiry k text hk hnot => ?_⟩
  · rw [h.store_eq, World.store_drop, hfade.store_eq]
  · obtain ⟨hdrop, hdeleted⟩ := h.subset k text hk
    obtain ⟨hne, hk₁⟩ := World.entries_drop hdrop
    refine ⟨hfade.entries hk₁, fun hcons => ?_⟩
    rcases deleted_cons.mp hcons with heq | hrest
    · exact hne heq
    · exact hdeleted hrest
  · rcases hfade with rfl | ⟨hfades, -, -⟩
    · refine h.rest hexpiry k text ?_ fun hrest => hnot (deleted_cons.mpr (.inr hrest))
      have hne : k ≠ key := fun heq => hnot (deleted_cons.mpr (.inl heq))
      rw [World.entries_drop_ne hne]
      exact hk
    · exact absurd hfades hexpiry

namespace Repository

variable {repo : Repository} {σ : Type} {S : RuleStore σ} {hz : Hazards} {w w' : World σ}

theorem forgetAll_cons (hcached : repo.cached = true) (key : String) (rest : List String) :
    repo.forgetAll (key :: rest) = .ask (.cache (.delete key)) fun _ => repo.forgetAll rest := by
  rw [forgetAll, forget, if_pos hcached]
  rfl

/-- All keys are taken from the cache in turn, and what comes afterwards is left to do. -/
theorem reaches_forgetAll (hcached : repo.cached = true) {α : Type} (rest : Work α)
    (keys : List String) (w : World σ) :
    Reaches S hz ((repo.forgetAll keys).andThen fun _ => rest) w
      (keys.map fun key => ⟨.cache (.delete key), .ok ()⟩) rest (keys.foldl World.drop w) := by
  induction keys generalizing w with
  | nil => exact .refl _ _
  | cons key keys ih =>
    rw [forgetAll_cons hcached]
    exact .next (.inl rfl) .delete (ih _)

/-- A write comes to its end. -/
theorem reaches_write_alone (hcached : repo.cached = true) {op : RuleOperation} {wr : Write}
    (hwr : op.write? = some wr) {x : Except RuleFault wr.call.Answer} {s : σ}
    (hanswer : S.answer wr.call w.store = (x, s)) :
    Reaches S hz (repo.perform op) w
      (⟨.store wr.call, x⟩ :: (wr.stale x).map fun key => ⟨.cache (.delete key), .ok ()⟩)
      (.done (wr.reply x)) ((wr.stale x).foldl World.drop { w with store := s }) := by
  rw [perform_write repo hwr]
  exact .next (.inl rfl) (.of_answer hanswer) (reaches_forgetAll hcached _ _ _)

/-- Every part of a run that forgets keys has done only that; one that has come to its end has taken
all of them. -/
theorem forgot_of_reaches (hcached : repo.cached = true) (hdelete : ¬ hz.fails .delete) :
    ∀ {keys : List String} {trace : List Exchange} {p : Work Unit} {w w' : World σ},
      Reaches S hz (repo.forgetAll keys) w trace p w' →
        Forgot hz trace w w' ∧ (p = .done () → ∀ key ∈ keys, Deleted trace key)
  | [], trace, p, w, w', h => by
    obtain ⟨rfl, rfl, rfl⟩ := Reaches.of_done h
    exact ⟨.refl hz _, fun _ key hkey => nomatch hkey⟩
  | key :: rest, trace, p, w, w', h => by
    rw [forgetAll_cons hcached] at h
    -- One deletion after the other: the run has not begun, or has made the first one.
    rcases Reaches.of_ask h with ⟨rfl, rfl, rfl⟩ | ⟨w₁, x, w₂, trace', hfade, hstep, hrest, rfl⟩
    · exact ⟨.refl hz _, fun hdone => nomatch hdone⟩
    · obtain rfl := hstep.of_delete hdelete
      obtain ⟨hforgot, hall⟩ := forgot_of_reaches hcached hdelete hrest
      refine ⟨hforgot.cons hfade, fun hdone k hk => deleted_cons.mpr ?_⟩
      rcases List.mem_cons.mp hk with rfl | hk
      · exact .inl rfl
      · exact .inr (hall hdone k hk)

/-- A run of a write to its end. -/
theorem reaches_write_done (hcached : repo.cached = true) (hdelete : ¬ hz.fails .delete)
    {op : RuleOperation} {wr : Write} (hwr : op.write? = some wr) {trace : List Exchange}
    {reply : RuleReply} (h : Reaches S hz (repo.perform op) w trace (.done reply) w') :
    reply = wr.reply (S.answer wr.call w.store).1 ∧
      w'.store = (S.answer wr.call w.store).2 ∧
      ∀ key text, w'.entries key = some text →
        w.entries key = some text ∧ key ∉ wr.stale (S.answer wr.call w.store).1 := by
  rw [perform_write repo hwr] at h
  obtain ⟨w₁, x, w₂, trace', hfade, hstep, hrest, rfl⟩ := Reaches.of_ask_done h
  obtain ⟨rfl, rfl⟩ := hstep.of_store
  rw [hfade.store_eq] at hrest
  obtain ⟨trace₁, ⟨⟩, w₃, trace₂, hforget, hdone, rfl⟩ := Reaches.of_andThen_done hrest
  obtain ⟨hforgot, hall⟩ := forgot_of_reaches hcached hdelete hforget
  obtain ⟨-, hreply, rfl⟩ := Reaches.of_done hdone
  refine ⟨by cases hreply; rfl, hforgot.store_eq, fun key text hkey => ?_⟩
  obtain ⟨hkey₂, hdeleted⟩ := hforgot.subset key text hkey
  exact ⟨hfade.entries hkey₂, fun hstale => hdeleted (hall rfl key hstale)⟩

/-- **After a write all entries fit again**, if they did before and its deletions succeed. -/
theorem agrees_of_write (hcached : repo.cached = true) (hdelete : ¬ hz.fails .delete)
    {op : RuleOperation} {wr : Write} (hwr : op.write? = some wr) {trace : List Exchange}
    {reply : RuleReply} (hagrees : w.Agrees S)
    (h : Reaches S hz (repo.perform op) w trace (.done reply) w') : w'.Agrees S := by
  obtain ⟨-, hstore, hentries⟩ := reaches_write_done hcached hdelete hwr h
  intro key text hkey
  obtain ⟨hbefore, hstale⟩ := hentries key text hkey
  rw [hstore]
  exact fits_after hwr (S.wellKept _) (S.lawful wr.call w.store) hstale
    (hagrees key text hbefore)

end Repository

end AlertRules
