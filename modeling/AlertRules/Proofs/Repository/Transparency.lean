import AlertRules.Proofs.Repository.Writing

/-!
# The cache is transparent

A repository with a cache answers as one without, whatever is asked of it one after the other:
between any two requests entries may vanish, and any `get` or `set` may fail, but deletions succeed.

The invariant is that every entry fits the rules of the store (`World.Agrees`) and that these are
faithful. Reads keep it because they are sound (`sound_perform`), writes because they delete what
they make stale (`agrees_of_write`). Operation by operation the two repositories then answer the
same, and leave the store in the same state (`perform_transparent`); without a cache an operation is
a function of the state of the store, `RuleStore.serve`.

> `performAll_transparent`: from an empty cache on, all answers are those without a cache, in order.
-/

namespace AlertRules

/-- Answers requests from a store alone. There is no cache. -/
def RuleStore.serve {σ : Type} (S : RuleStore σ) : (r : Request) → σ → r.Answer × σ
  | .store c, s => S.answer c s
  | .cache _, s => (.error (.cache "connection refused"), s)
  | .observe _, s => ((), s)

/-- The repository without its cache. -/
def Repository.uncached (repo : Repository) : Repository := { repo with cached := false }

variable {σ : Type} {S : RuleStore σ} {hz : Hazards}

/-- A sound program comes to a good result from a store alone, too. -/
theorem Sound.run {T : Terms} {α : Type} {good : α → Prop} {K : σ → Prop}
    (hK : ∀ c s, T.asks c → K s → T.tells c (S.answer c s).1 ∧ K (S.answer c s).2)
    {p : Work α} (hp : Sound T good p) {s : σ} (hs : K s) :
    good (p.run S.serve s).1 ∧ K (p.run S.serve s).2 := by
  induction p generalizing s with
  | done a => exact ⟨hp, hs⟩
  | ask r rest ih =>
    match r with
    | .store c =>
      obtain ⟨htells, hs'⟩ := hK c s hp.1 hs
      exact ih _ (hp.2 _ htells) hs'
    | .cache (.get key) =>
      -- Every lookup fails, so nothing is found.
      have hnothing : ∀ text, (S.serve (.cache (.get key)) s).1 = .ok (some text) →
          T.finds key text := by
        intro text htext
        cases htext
      exact ih _ (hp _ hnothing) hs
    | .cache (.set key text ttl) => exact ih _ (hp.2 _) hs
    | .cache (.delete key) => exact ih _ (hp _) hs
    | .observe o => exact ih _ (hp _) hs

/-- A store that is available answers what it is asked, and stays in its state. -/
theorem RuleStore.Available.exists_answer (havail : S.Available) {c : StoreCall} (hread : c.isRead)
    (s : σ) : ∃ a, S.answer c s = (.ok a, s) ∧ c.Effect (S.rules s) a (S.rules s) := by
  obtain ⟨a, ha⟩ := havail c s hread
  have hlawful := S.lawful c s
  rw [ha] at hlawful
  exact ⟨a, ha, hlawful⟩

/-- It keeps its side of the terms of reads. -/
theorem RuleStore.Available.reading (havail : S.Available) (s₀ : σ) (c : StoreCall) (s : σ)
    (hread : (Terms.reading (S.rules s₀) False).asks c) (hs : s = s₀) :
    (Terms.reading (S.rules s₀) False).tells c (S.answer c s).1 ∧ (S.answer c s).2 = s₀ := by
  subst hs
  obtain ⟨a, ha, heffect⟩ := havail.exists_answer hread s
  rw [ha]
  exact ⟨⟨heffect, .inr ⟨a, rfl⟩⟩, rfl⟩

namespace Repository

variable {repo : Repository} {w w' : World σ}

/-- A read answers what the store has, and leaves all as it should be. -/
theorem reads_of_available (havail : S.Available) (hagrees : w.Agrees S)
    (hrules : ∀ r ∈ S.rules w.store, r.Faithful) {op : RuleOperation} (hread : op.isRead)
    {trace : List Exchange} {reply : RuleReply}
    (hrun : Reaches S hz (repo.perform op) w trace (.done reply) w') :
    Reads (S.rules w.store) False op reply ∧ w'.store = w.store ∧ w'.Agrees S := by
  have hsound : Sound (.reading (S.rules w.store) False) (Reads (S.rules w.store) False op)
      (repo.perform op) := repo.sound_perform (S.wellKept w.store) hrules hread
  obtain ⟨hholds, hreply, hstore⟩ := Sound.reaches (K := fun s => s = w.store)
    (havail.reading w.store) hrun hsound hagrees rfl
  refine ⟨hreply, hstore, fun key text hkey => ?_⟩
  rw [hstore]
  exact hholds key text hkey

/-- A read answers with a cache what it answers without. -/
theorem read_transparent (havail : S.Available) (hagrees : w.Agrees S)
    (hrules : ∀ r ∈ S.rules w.store, r.Faithful) {op : RuleOperation} (hread : op.isRead)
    {trace : List Exchange} {reply : RuleReply}
    (hrun : Reaches S hz (repo.perform op) w trace (.done reply) w') :
    (reply, w'.store) = (repo.uncached.perform op).run S.serve w.store := by
  obtain ⟨hreply, hstore, -⟩ := reads_of_available havail hagrees hrules hread hrun
  have hsound : Sound (.reading (S.rules w.store) False) (Reads (S.rules w.store) False op)
      (repo.uncached.perform op) := repo.uncached.sound_perform (S.wellKept w.store) hrules hread
  obtain ⟨hreply', hstore'⟩ := hsound.run (K := fun s => s = w.store)
    (havail.reading w.store) rfl
  exact Prod.ext (Reads.eq hreply hreply') (hstore.trans hstore'.symm)

theorem run_forgetAll_uncached {α : Type} (keys : List String) (p : Work α) (s : σ) :
    ((repo.uncached.forgetAll keys).andThen fun _ => p).run S.serve s = p.run S.serve s := by
  induction keys with
  | nil => rfl
  | cons key rest ih => exact ih

/-- A write answers with a cache what it answers without. -/
theorem write_transparent (hcached : repo.cached = true) (hdelete : ¬ hz.fails .delete)
    {op : RuleOperation} {wr : Write} (hwr : op.write? = some wr) {trace : List Exchange}
    {reply : RuleReply} (hrun : Reaches S hz (repo.perform op) w trace (.done reply) w') :
    (reply, w'.store) = (repo.uncached.perform op).run S.serve w.store := by
  obtain ⟨rfl, hstore, -⟩ := reaches_write_done hcached hdelete hwr hrun
  rw [perform_write repo.uncached hwr, hstore]
  show _ = ((repo.uncached.forgetAll _).andThen _).run S.serve _
  rw [run_forgetAll_uncached]
  rfl

/-- **One operation** answers with a cache what it answers without, leaves the store the same, and
keeps the invariant. -/
theorem perform_transparent (havail : S.Available) (hcached : repo.cached = true)
    (hdelete : ¬ hz.fails .delete) (hagrees : w.Agrees S)
    (hrules : ∀ r ∈ S.rules w.store, r.Faithful) {op : RuleOperation} (hop : op.Faithful)
    {trace : List Exchange} {reply : RuleReply}
    (hrun : Reaches S hz (repo.perform op) w trace (.done reply) w') :
    (reply, w'.store) = (repo.uncached.perform op).run S.serve w.store ∧ w'.Agrees S ∧
      ∀ r ∈ S.rules w'.store, r.Faithful := by
  -- Writes make one call on the store with a cache or without; reads are compared by what they
  -- answer.
  cases hwr : op.write? with
  | some wr =>
    have hsame := write_transparent hcached hdelete hwr hrun
    have hagrees' := agrees_of_write hcached hdelete hwr hagrees hrun
    obtain ⟨-, hstore, -⟩ := reaches_write_done hcached hdelete hwr hrun
    refine ⟨hsame, hagrees', ?_⟩
    rw [hstore]
    exact (S.lawful wr.call w.store).faithful (faithful_call hwr hop) hrules
  | none =>
    rcases write?_eq_none hwr with hread | hnothing
    · have hsame := read_transparent havail hagrees hrules hread hrun
      obtain ⟨-, hstore, hagrees'⟩ := reads_of_available havail hagrees hrules hread hrun
      refine ⟨hsame, hagrees', ?_⟩
      rw [hstore]
      exact hrules
    · rw [hnothing] at hrun ⊢
      obtain ⟨-, hreply, rfl⟩ := Reaches.of_done hrun
      cases hreply
      exact ⟨rfl, hagrees, hrules⟩

/-- The first operation is performed, and then the others are. -/
theorem reaches_performAll_cons {op : RuleOperation} {rest : List RuleOperation} {reply : RuleReply}
    {replies : List RuleReply} {w₁ : World σ} {trace trace' : List Exchange}
    (hfirst : Reaches S hz (repo.perform op) w trace (.done reply) w₁)
    (hrest : Reaches S hz (repo.performAll rest) w₁ trace' (.done replies) w') :
    Reaches S hz (repo.performAll (op :: rest)) w (trace ++ trace') (.done (reply :: replies)) w' :=
  (hfirst.andThen _).trans (hrest.andThen fun replies => .done (reply :: replies))

/-- If all have been performed, the first was, and then the others were. -/
theorem of_performAll_cons {op : RuleOperation} {rest : List RuleOperation}
    {replies : List RuleReply} {trace : List Exchange}
    (h : Reaches S hz (repo.performAll (op :: rest)) w trace (.done replies) w') :
    ∃ trace₁ reply w₁ trace₂ others, Reaches S hz (repo.perform op) w trace₁ (.done reply) w₁ ∧
      Reaches S hz (repo.performAll rest) w₁ trace₂ (.done others) w' ∧
      replies = reply :: others := by
  obtain ⟨trace₁, reply, w₁, trace₂, hfirst, hmore, -⟩ := Reaches.of_andThen_done h
  obtain ⟨trace₃, others, w₂, trace₄, hothers, hdone, -⟩ := Reaches.of_andThen_done hmore
  obtain ⟨-, hreplies, rfl⟩ := Reaches.of_done hdone
  cases hreplies
  exact ⟨trace₁, reply, w₁, trace₃, others, hfirst, hothers, rfl⟩

/-- Operations one after the other answer with a cache what they answer without, from any world on
in which all entries fit. -/
theorem performAll_transparent_of_agrees (havail : S.Available) (hcached : repo.cached = true)
    (hdelete : ¬ hz.fails .delete) : ∀ {ops : List RuleOperation} {w w' : World σ}
      {trace : List Exchange} {replies : List RuleReply}, w.Agrees S →
        (∀ r ∈ S.rules w.store, r.Faithful) → (∀ op ∈ ops, op.Faithful) →
          Reaches S hz (repo.performAll ops) w trace (.done replies) w' →
            (replies, w'.store) = (repo.uncached.performAll ops).run S.serve w.store
  | [], w, w', trace, replies, _, _, _, hrun => by
    obtain ⟨-, hreplies, rfl⟩ := Reaches.of_done hrun
    cases hreplies
    rfl
  | op :: rest, w, w', trace, replies, hagrees, hrules, hops, hrun => by
    obtain ⟨trace₁, reply, w₁, trace₂, others, hfirst, hothers, rfl⟩ := of_performAll_cons hrun
    obtain ⟨hsame, hagrees₁, hrules₁⟩ := perform_transparent havail hcached hdelete hagrees hrules
      (hops op (List.mem_cons_self ..)) hfirst
    have hrest := performAll_transparent_of_agrees havail hcached hdelete hagrees₁ hrules₁
      (fun op hop => hops op (List.mem_cons_of_mem _ hop)) hothers
    rw [performAll, Program.run_andThen, ← hsame]
    dsimp only
    rw [Program.run_andThen, ← hrest]
    rfl

/-- **The cache is transparent.** Whatever is asked one after the other of a repository whose cache
is empty at first, all answers are those of the repository without a cache on the same store, in
order, and the store ends up in the same state. -/
theorem performAll_transparent (havail : S.Available) (hcached : repo.cached = true)
    (hdelete : ¬ hz.fails .delete) {s : σ} (hrules : ∀ r ∈ S.rules s, r.Faithful)
    {ops : List RuleOperation} (hops : ∀ op ∈ ops, op.Faithful) {trace : List Exchange}
    {replies : List RuleReply}
    (hrun : Reaches S hz (repo.performAll ops) ⟨s, fun _ => none⟩ trace (.done replies) w') :
    (replies, w'.store) = (repo.uncached.performAll ops).run S.serve s := by
  exact performAll_transparent_of_agrees havail hcached hdelete World.agrees_of_empty hrules hops
    hrun

/-- Reads and an update of a store with one rule, while entries may vanish and only deletions are
sure to succeed. -/
theorem performAll_transparent_single :
    ∃ trace replies w', Reaches Memory.store .sparingDeletions
      ((Repository.mk true 60 300).performAll [.byId (.ofNat 1), .enabledRules,
        .update { Rule.onStatus "down" with id := some (.ofNat 1) }, .byId (.ofNat 1)])
      ⟨Memory.single (.onStatus "up"), fun _ => none⟩ trace (.done replies) w' ∧
    (replies, w'.store) = ((Repository.mk true 60 300).uncached.performAll [.byId (.ofNat 1),
      .enabledRules, .update { Rule.onStatus "down" with id := some (.ofNat 1) },
      .byId (.ofNat 1)]).run Memory.store.serve (Memory.single (.onStatus "up")) := by
  obtain ⟨trace, replies, w', hrun⟩ := Reaches.exists_run Memory.store .sparingDeletions
    ((Repository.mk true 60 300).performAll [.byId (.ofNat 1), .enabledRules,
      .update { Rule.onStatus "down" with id := some (.ofNat 1) }, .byId (.ofNat 1)])
    ⟨Memory.single (.onStatus "up"), fun _ => none⟩
  have hdelete : ¬ Hazards.sparingDeletions.fails .delete := fun h => h rfl
  refine ⟨trace, replies, w', hrun, performAll_transparent Memory.available_store rfl hdelete ?_ ?_
    hrun⟩
  · exact Memory.faithful_single (Rule.faithful_onStatus "up")
  · simp only [List.forall_mem_cons, RuleOperation.Faithful]
    refine ⟨trivial, trivial, ?_, trivial, fun _ h => nomatch h⟩
    exact ⟨(Rule.faithful_onStatus "down").ordered, (Rule.faithful_onStatus "down").survives⟩

end Repository

end AlertRules
