import AlertRules.Proofs.Repository.System

/-!
# Reads after a write

While operations run at the same time, a read that is begun after a write has returned need not see
what was written. An operation may have asked the store before the write did, and put what it got
into the cache after the write has deleted the key: nothing holds it up, and nothing tells that it
comes late (`Late`). From then on every read finds what is stale, until the entry expires.

That is all there is to it. If no operation comes late, and the rule is not written again, every
read that is begun after the write has returned reflects it.

The proof looks at one identifier only (`SlotFits`). Up to the call of the write on the store, an
operation has had of the rule what the store had then (`Before`). Afterwards those that had not
asked yet get what was written; the keys the write has deleted stay `settled`, because whatever is
put under them again comes from one of these (`Since`).

> `reads_after_write`: if no operation comes late under the keys it looks up, a read that is begun
> after a write has returned answers what was written.

`stale_after_write` has a case in which one does come late, and one in which the write has found no
rule.
-/

namespace AlertRules

open Repository

/-- That operation `i` has asked the store. -/
def Asked (events : List Event) (i : Nat) : Prop := ∃ c x, Event.asks i ⟨.store c, x⟩ ∈ events

/-- That operation `i` has deleted a key. -/
def Drops (events : List Event) (i : Nat) (key : String) : Prop :=
  ∃ x, Event.asks i ⟨.cache (.delete key), x⟩ ∈ events

/-- That after operation `i` has deleted a key another one sets it again that had asked the store
before. -/
def Late (before since : List Event) (i : Nat) (key : String) : Prop :=
  ∃ past j text ttl x future,
    since = past ++ .asks j ⟨.cache (.set key text ttl), x⟩ :: future ∧
      Drops past i key ∧ Asked before j

/-- That a rule is written: its identifier is the one of a rule that a call on the store has
changed. -/
def Event.Writes (id : Uuid) (e : Event) : Prop :=
  ∃ j c a want, e = .asks j ⟨.store c, .ok a⟩ ∧ c.wrote? a = some (id, want)

theorem asked_append {events : List Event} {e : Event} {i : Nat} :
    Asked (events ++ [e]) i ↔ Asked events i ∨ ∃ c x, e = .asks i ⟨.store c, x⟩ := by
  constructor
  · rintro ⟨c, x, h⟩
    rcases List.mem_append.mp h with h | h
    · exact .inl ⟨c, x, h⟩
    · exact .inr ⟨c, x, (List.mem_singleton.mp h).symm⟩
  · rintro (⟨c, x, h⟩ | ⟨c, x, rfl⟩)
    · exact ⟨c, x, List.mem_append_left _ h⟩
    · exact ⟨c, x, List.mem_append_right _ (List.mem_singleton.mpr rfl)⟩

theorem drops_append {events : List Event} {e : Event} {i : Nat} {key : String} :
    Drops (events ++ [e]) i key ↔
      Drops events i key ∨ ∃ x, e = .asks i ⟨.cache (.delete key), x⟩ := by
  constructor
  · rintro ⟨x, h⟩
    rcases List.mem_append.mp h with h | h
    · exact .inl ⟨x, h⟩
    · exact .inr ⟨x, (List.mem_singleton.mp h).symm⟩
  · rintro (⟨x, h⟩ | ⟨x, rfl⟩)
    · exact ⟨x, List.mem_append_left _ h⟩
    · exact ⟨x, List.mem_append_right _ (List.mem_singleton.mpr rfl)⟩

/-! ## Deletions to come -/

/-- That a program is not done before it has deleted a key. -/
def Deletes {α : Type} (key : String) : Work α → Prop
  | .done _ => False
  | .ask r rest => r = .cache (.delete key) ∨ ∀ x, Deletes key (rest x)

/-- The order of requests that are not to the store makes no difference to what a program
deletes. -/
theorem Reorders.deletes_iff {α : Type} {p q : Work α} (h : Reorders p q) {key : String} :
    Deletes key p ↔ Deletes key q := by
  induction h with
  | refl => exact Iff.rfl
  | symm _ ih => exact ih.symm
  | trans _ _ ih ih' => exact ih.trans ih'
  | ask _ ih => exact or_congr_right (forall_congr' ih)
  | @swap r r' _ _ f =>
    show (r = .cache (.delete key) ∨ ∀ x, r' = .cache (.delete key) ∨ ∀ y, Deletes key (f x y)) ↔
      (r' = .cache (.delete key) ∨ ∀ y, r = .cache (.delete key) ∨ ∀ x, Deletes key (f x y))
    by_cases hr : r = .cache (.delete key)
    · exact iff_of_true (.inl hr) (.inr fun _ => .inl hr)
    · by_cases hr' : r' = .cache (.delete key)
      · exact iff_of_true (.inr fun _ => .inl hr') (.inl hr')
      · simp only [hr, hr', false_or]
        exact forall_comm

theorem Repository.deletes_forgetAll {repo : Repository} (hcached : repo.cached = true)
    {keys : List String} {key : String} (hkey : key ∈ keys) {α : Type} (rest : Work α) :
    Deletes key ((repo.forgetAll keys).andThen fun _ => rest) := by
  induction keys with
  | nil => exact nomatch hkey
  | cons k others ih =>
    rw [forgetAll_cons hcached]
    rcases List.mem_cons.mp hkey with rfl | hkey
    · exact .inl rfl
    · exact .inr fun _ => ih hkey

namespace System

variable {σ : Type} {S : RuleStore σ} {hz : Hazards} {repo : Repository} {s s' : System σ}
  {past : List Event} {e : Event} {id : Uuid} {had : Option Rule → Prop}

/-- What is left of an operation after another has been begun. -/
theorem thread_begins {threads : List (Work RuleReply)} {p q : Work RuleReply} {j : Nat}
    (h : (threads ++ [p])[j]? = some q) : threads[j]? = some q ∨ j = threads.length ∧ q = p := by
  rcases Nat.lt_trichotomy j threads.length with hlt | rfl | hgt
  · rw [List.getElem?_append_left hlt] at h
    exact .inl h
  · rw [List.getElem?_concat_length] at h
    exact .inr ⟨rfl, (Option.some.inj h).symm⟩
  · rw [List.getElem?_eq_none (by rw [List.length_append, List.length_singleton]; omega)] at h
    exact nomatch h

/-- What is left of an operation after one has gone on. -/
theorem thread_asks {threads : List (Work RuleReply)} {p q : Work RuleReply} {i j : Nat}
    (h : (threads.set i p)[j]? = some q) : j = i ∧ q = p ∨ j ≠ i ∧ threads[j]? = some q := by
  by_cases hsame : j = i
  · subst hsame
    rw [List.getElem?_set_self'] at h
    obtain ⟨_, -, rfl⟩ := Option.map_eq_some_iff.mp h
    exact .inl ⟨rfl, rfl⟩
  · rw [List.getElem?_set_ne fun heq => hsame heq.symm] at h
    exact .inr ⟨hsame, h⟩

/-! ## Before the write -/

/-- What holds up to the call of the write on the store: whatever the store has had under the
identifier is in `had`, and nothing else is found in the cache or held by an operation. One that has
not asked the store yet holds nothing. -/
structure Before (S : RuleStore σ) (id : Uuid) (had : Option Rule → Prop) (s : System σ)
    (past : List Event) : Prop where
  slot : had (ruleWith? (S.rules s.world.store) id)
  faithful : ∀ r ∈ S.rules s.world.store, r.Faithful
  entries : ∀ key text, s.world.entries key = some text → SlotFits id had key text
  threads : ∀ (j : Nat) (p : Work RuleReply), s.threads[j]? = some p → Keeps id had p
  fresh : ∀ (j : Nat) (p : Work RuleReply), s.threads[j]? = some p → ¬ Asked past j →
    Keeps id (fun _ => False) p

theorem Before.step (havail : S.Available) (h : Before S id had s past)
    (hstep : Step S hz repo s e s') (hop : ∀ op, e = .begins op → op.Faithful)
    (hwrites : ∀ j c a want, e = .asks j ⟨.store c, .ok a⟩ → c.wrote? a = some (id, want) →
      had want) : Before S id had s' (past ++ [e]) := by
  cases hstep with
  | @begins op p horder =>
    have hfresh : Keeps id (fun _ => False) p :=
      (keeps_perform repo (hop op rfl)).reorders horder
    refine ⟨h.slot, h.faithful, h.entries, fun j q hq => ?_, fun j q hq hnot => ?_⟩
    · rcases thread_begins hq with hq | ⟨-, rfl⟩
      · exact h.threads j q hq
      · exact hfresh.mono fun _ hv => hv.elim
    · rcases thread_begins hq with hq | ⟨-, rfl⟩
      · exact h.fresh j q hq fun hasked => hnot (asked_append.mpr (.inl hasked))
      · exact hfresh
  | @asks i r rest w₁ w₂ x hthread hfade hw =>
    have hslot : had (ruleWith? (S.rules w₁.store) id) := hfade.store_eq ▸ h.slot
    obtain ⟨hset, hrest, hrules⟩ := (h.threads i _ hthread).step havail h.faithful h.entries hfade
      hw fun _ _ => h.slot
    refine ⟨?_, hrules, fun key text htext => ?_, fun j q hq => ?_, fun j q hq hnot => ?_⟩
    · rcases hw.ruleWith?_eq id with ⟨c, a, want, heq, hwrote, hwant⟩ | hsame
      · show had (ruleWith? (S.rules w₂.store) id)
        rw [hwant]
        exact hwrites i c a want (congrArg _ heq) hwrote
      · show had (ruleWith? (S.rules w₂.store) id)
        rw [hsame]
        exact hslot
    · rcases hw.entries htext with hbefore | ⟨ttl, hr⟩
      · exact h.entries key text (hfade.entries hbefore)
      · exact hset key text ttl hr
    · rcases thread_asks hq with ⟨-, rfl⟩ | ⟨-, hq⟩
      · exact hrest
      · exact h.threads j q hq
    · rw [asked_append] at hnot
      rcases thread_asks hq with ⟨rfl, rfl⟩ | ⟨-, hq⟩
      · refine ((h.fresh j _ hthread fun hasked => hnot (.inl hasked)).step havail h.faithful
          h.entries hfade hw fun c hc => ?_).2.1
        subst hc
        exact hnot (.inr ⟨c, x, rfl⟩)
      · exact h.fresh j q hq fun hasked => hnot (.inl hasked)

/-! ## After the write -/

/-- What holds from the call of the write on the store on, if the write is operation `i`: the store
has what is wanted, and operations that had not asked it before hold nothing else. Nor does the
cache show anything else under one of the keys that the write has deleted. -/
structure Since (S : RuleStore σ) (id : Uuid) (had : Option Rule → Prop) (want : Option Rule)
    (before : List Event) (i : Nat) (keys : List String) (s : System σ) (past : List Event) :
    Prop where
  slot : ruleWith? (S.rules s.world.store) id = want
  faithful : ∀ r ∈ S.rules s.world.store, r.Faithful
  entries : ∀ key text, s.world.entries key = some text →
    SlotFits id (fun v => had v ∨ v = want) key text
  settled : ∀ key ∈ keys, Drops past i key → ∀ text, s.world.entries key = some text →
    SlotFits id (· = want) key text
  threads : ∀ (j : Nat) (p : Work RuleReply), s.threads[j]? = some p →
    Keeps id (fun v => had v ∨ v = want) p
  fresh : ∀ (j : Nat) (p : Work RuleReply), s.threads[j]? = some p → ¬ Asked before j →
    Keeps id (· = want) p

variable {want : Option Rule} {before : List Event} {i : Nat} {keys : List String}

theorem Since.step (havail : S.Available) (hdelete : ¬ hz.fails .delete)
    (h : Since S id had want before i keys s past) (hstep : Step S hz repo s e s')
    (hop : ∀ op, e = .begins op → op.Faithful) (hlast : ¬ e.Writes id)
    (hlate : ∀ key ∈ keys, ∀ j text ttl x, e = .asks j ⟨.cache (.set key text ttl), x⟩ →
      Drops past i key → ¬ Asked before j) :
    Since S id had want before i keys s' (past ++ [e]) := by
  cases hstep with
  | @begins op p horder =>
    have hfresh : Keeps id (fun _ => False) p :=
      (keeps_perform repo (hop op rfl)).reorders horder
    refine ⟨h.slot, h.faithful, h.entries, fun key hkey hdrops => ?_, fun j q hq => ?_,
      fun j q hq hnot => ?_⟩
    · rcases drops_append.mp hdrops with hearlier | ⟨_, heq⟩
      · exact h.settled key hkey hearlier
      · exact nomatch heq
    · rcases thread_begins hq with hq | ⟨-, rfl⟩
      · exact h.threads j q hq
      · exact hfresh.mono fun _ hv => hv.elim
    · rcases thread_begins hq with hq | ⟨-, rfl⟩
      · exact h.fresh j q hq hnot
      · exact hfresh.mono fun _ hv => hv.elim
  | @asks j r rest w₁ w₂ x hthread hfade hw =>
    have hslot : ruleWith? (S.rules w₁.store) id = want := hfade.store_eq ▸ h.slot
    obtain ⟨hset, hrest, hrules⟩ := (h.threads j _ hthread).step havail h.faithful h.entries hfade
      hw fun _ _ => .inr h.slot
    refine ⟨?_, hrules, fun key text htext => ?_, fun key hkey hdrops text htext => ?_,
      fun k q hq => ?_, fun k q hq hnot => ?_⟩
    · rcases hw.ruleWith?_eq id with ⟨c, a, want', heq, hwrote, -⟩ | hsame
      · exact absurd ⟨j, c, a, want', congrArg _ heq, hwrote⟩ hlast
      · exact hsame.trans hslot
    · rcases hw.entries htext with hbefore | ⟨ttl, hr⟩
      · exact h.entries key text (hfade.entries hbefore)
      · exact hset key text ttl hr
    · -- A key the write deletes now is empty. One it has deleted may be set, but by no late
      -- operation.
      rcases drops_append.mp hdrops with hearlier | ⟨y, heq⟩
      · rcases hw.entries htext with hbefore | ⟨ttl, rfl⟩
        · exact h.settled key hkey hearlier text (hfade.entries hbefore)
        · have hnot := hlate key hkey j text ttl x rfl hearlier
          exact ((h.fresh j _ hthread hnot).step havail h.faithful h.entries hfade hw
            fun _ hc => (nomatch hc)).1 key text ttl rfl
      · cases heq
        obtain rfl := hw.of_delete hdelete
        rw [World.entries_drop_self] at htext
        exact nomatch htext
    · rcases thread_asks hq with ⟨-, rfl⟩ | ⟨-, hq⟩
      · exact hrest
      · exact h.threads k q hq
    · rcases thread_asks hq with ⟨rfl, rfl⟩ | ⟨-, hq⟩
      · exact ((h.fresh k _ hthread hnot).step havail h.faithful h.entries hfade hw
          fun _ _ => h.slot).2.1
      · exact h.fresh k q hq hnot

/-- What is left of a write after its call on the store: of the keys it has made stale it deletes
those that it has not deleted yet. -/
def Writing (i : Nat) (stale : List String) (s : System σ) (past : List Event) : Prop :=
  ∃ p, s.threads[i]? = some p ∧ ∀ key ∈ stale, Drops past i key ∨ Deletes key p

variable {stale : List String}

theorem Writing.step (h : Writing i stale s past) (hstep : Step S hz repo s e s') :
    Writing i stale s' (past ++ [e]) := by
  obtain ⟨p, hthread, hstale⟩ := h
  have hlt : i < s.threads.length := (List.getElem?_eq_some_iff.mp hthread).1
  have hkept : ∀ key ∈ stale, Drops (past ++ [e]) i key ∨ Deletes key p := fun key hkey =>
    (hstale key hkey).imp_left fun hdrops => drops_append.mpr (.inl hdrops)
  cases hstep with
  | begins horder => exact ⟨p, (List.getElem?_append_left hlt).trans hthread, hkept⟩
  | @asks j r rest w₁ w₂ x hasks hfade hw =>
    by_cases hsame : j = i
    · subst hsame
      rw [hthread] at hasks
      cases hasks
      refine ⟨rest x, List.getElem?_set_self hlt, fun key hkey => ?_⟩
      rcases hkept key hkey with hdrops | rfl | hrest
      · exact .inl hdrops
      · exact .inl (drops_append.mpr (.inr ⟨x, rfl⟩))
      · exact .inr (hrest x)
    · exact ⟨p, (List.getElem?_set_ne hsame).trans hthread, hkept⟩

/-- A write that has returned has deleted the keys it has made stale. -/
theorem Writing.drops (h : Writing i stale s past) {reply : RuleReply}
    (hdone : s.threads[i]? = some (.done reply)) : ∀ key ∈ stale, Drops past i key := by
  obtain ⟨p, hthread, hstale⟩ := h
  rw [hthread] at hdone
  cases hdone
  exact fun key hkey => (hstale key hkey).resolve_right id

/-- What is left of a read that was begun when the write had deleted the keys that it looks up. -/
def Reading (id : Uuid) (want : Option Rule) (later : RuleOperation) (keys : List String) (j : Nat)
    (s : System σ) : Prop :=
  ∃ p, s.threads[j]? = some p ∧
    Sound (.slot id (· = want) (fun key v => key ∈ keys → v = want) fun _ _ hv _ => hv)
      (Reflects id want later) p

/-- What is found under a key is what is wanted if the write has deleted it, or if nothing else was
ever had that could stand there. -/
theorem Since.finds (h : Since S id had want before i keys s past) {key : String}
    (hmem : key ∈ keys) (hkey : Drops past i key ∨ key = ruleKey id ∧ ∀ v, had v → v = none)
    {text : String} (htext : s.world.entries key = some text) :
    SlotFits id (· = want) key text := by
  rcases hkey with hdrops | ⟨rfl, hunused⟩
  · exact h.settled key hmem hdrops text htext
  · constructor
    · intro id' r hkey hread
      obtain ⟨hid, hhad⟩ := (h.entries _ text htext).rule id' r hkey hread
      refine ⟨hid, fun hsame => (hhad hsame).resolve_left fun hv => ?_⟩
      exact nomatch hunused _ hv
    · exact fun hkey => absurd hkey (ruleKey_ne_listKey id)

variable {later : RuleOperation} {j : Nat}

theorem Reading.step (havail : S.Available) (h : Since S id had want before i keys s past)
    (hkeys : ∀ key ∈ keys, Drops past i key ∨ key = ruleKey id ∧ ∀ v, had v → v = none)
    (hread : Reading id want later keys j s) (hstep : Step S hz repo s e s') :
    Reading id want later keys j s' := by
  obtain ⟨p, hthread, hsound⟩ := hread
  have hlt : j < s.threads.length := (List.getElem?_eq_some_iff.mp hthread).1
  cases hstep with
  | begins horder => exact ⟨p, (List.getElem?_append_left hlt).trans hthread, hsound⟩
  | @asks k r rest w₁ w₂ x hasks hfade hw =>
    by_cases hsame : k = j
    · subst hsame
      rw [hthread] at hasks
      cases hasks
      refine ⟨rest x, List.getElem?_set_self hlt, (hsound.step ?_ hw fun c hc => ?_).2⟩
      · intro key text htext
        have hentry := hfade.entries htext
        by_cases hmem : key ∈ keys
        · exact (h.finds hmem (hkeys key hmem) hentry).mono fun _ hv _ => hv
        · exact (h.entries key text hentry).mono fun _ _ hmem' => absurd hmem' hmem
      · refine ⟨_, _, S.wellKept _, hfade.store_eq ▸ h.faithful, ?_, S.lawful c _, fun hread => ?_⟩
        · rw [hfade.store_eq]
          exact h.slot
        · obtain ⟨a, ha⟩ := havail c w₁.store hread
          exact ⟨a, congrArg Prod.fst ha⟩
    · exact ⟨p, (List.getElem?_set_ne hsame).trans hthread, hsound⟩

/-! ## The write -/

/-- To delete keys is to put nothing into the cache. -/
theorem keeps_forgetAll (keys : List String) (reply : RuleReply) :
    Keeps id (fun _ => False) ((repo.forgetAll keys).andThen fun _ => .done reply) := by
  intro wants _
  induction keys with
  | nil => trivial
  | cons key rest ih =>
    show Sound _ _ (((repo.forget key).andThen fun _ => repo.forgetAll rest).andThen _)
    rw [Program.andThen_assoc]
    exact (repo.sound_forget key).andThen fun _ _ => ih

/-- With its call on the store a write makes the step from one part to the other. -/
theorem Before.write (havail : S.Available) (hcached : repo.cached = true)
    (h : Before S id had s before) {op : RuleOperation} {wr : Write} (hwrite : op.write? = some wr)
    {p : Work RuleReply} (horder : Reorders (repo.perform op) p)
    (hthread : s.threads[i]? = some p) {a : wr.call.Answer}
    (hcall : Step S hz repo s (.asks i ⟨.store wr.call, .ok a⟩) s')
    (hwrote : wr.call.wrote? a = some (id, want)) :
    Since S id had want before i keys s' [] ∧ Writing i (wr.stale (.ok a)) s' [] := by
  rw [perform_write repo hwrite] at horder
  have hlt : i < s.threads.length := (List.getElem?_eq_some_iff.mp hthread).1
  cases hcall with
  | @asks _ r rest w₁ w₂ x hasks hfade hw =>
    rw [hthread] at hasks
    cases hasks
    obtain ⟨g, heq, hreorders⟩ := (horder.store_first wr.call).1 _ rfl
    cases heq
    have hrules := ((h.threads i _ hthread).step havail h.faithful h.entries hfade hw
      fun _ _ => h.slot).2.2
    have hrest : Keeps id (fun _ => False) (rest (.ok a)) :=
      (keeps_forgetAll (wr.stale (.ok a)) (wr.reply (.ok a))).reorders (hreorders (.ok a))
    have hdeletes : ∀ key ∈ wr.stale (.ok a), Deletes key (rest (.ok a)) := fun key hkey =>
      (hreorders (.ok a)).deletes_iff.mp (deletes_forgetAll hcached hkey _)
    -- The call changes the rule as its answer says.
    obtain ⟨hanswer, hw₂⟩ := hw.of_store
    have heffect := S.lawful wr.call w₁.store
    rw [← hanswer] at heffect
    refine ⟨⟨?_, hrules, fun key text htext => ?_, fun _ _ hdrops => ?_, fun j q hq => ?_,
      fun j q hq hnot => ?_⟩, rest (.ok a), List.getElem?_set_self hlt,
      fun key hkey => .inr (hdeletes key hkey)⟩
    · show ruleWith? (S.rules w₂.store) id = want
      rw [hw₂]
      rcases StoreCall.Effect.ruleWith?_eq heffect (S.wellKept _) (S.wellKept _) id with
        ⟨want', hwrote', hwant⟩ | ⟨hnot, -⟩
      · rw [hwrote] at hwrote'
        cases hwrote'
        exact hwant
      · exact absurd hwrote (hnot want)
    · rcases hw.entries htext with hbefore | ⟨ttl, heq⟩
      · exact (h.entries key text (hfade.entries hbefore)).mono fun _ => .inl
      · exact nomatch heq
    · obtain ⟨_, hmem⟩ := hdrops
      exact nomatch hmem
    · rcases thread_asks hq with ⟨-, rfl⟩ | ⟨-, hq⟩
      · exact hrest.mono fun _ hv => hv.elim
      · exact (h.threads j q hq).mono fun _ => .inl
    · rcases thread_asks hq with ⟨-, rfl⟩ | ⟨-, hq⟩
      · exact hrest.mono fun _ hv => hv.elim
      · exact (h.fresh j q hq hnot).mono fun _ hv => hv.elim

/-- A write that has changed a rule makes the list stale, and the rule too unless it is new. -/
theorem stale_of_wrote {op : RuleOperation} {wr : Write} (h : op.write? = some wr)
    {a : wr.call.Answer} (hwrote : wr.call.wrote? a = some (id, want)) :
    listKey ∈ wr.stale (.ok a) ∧ (ruleKey id ∈ wr.stale (.ok a) ∨ ∃ r, op = .create r) := by
  cases op with
  | enabledRules => exact nomatch h
  | byId id' => exact nomatch h
  | create r =>
    cases h
    exact ⟨List.mem_singleton.mpr rfl, .inr ⟨r, rfl⟩⟩
  | update r =>
    obtain ⟨oldId, hid, heq⟩ := Option.map_eq_some_iff.mp h
    cases heq
    rcases a with _ | stored
    · cases hwrote
    · have hsame : StoreCall.wrote? (.update r) (some stored) = some (oldId, some stored) := by
        rw [StoreCall.wrote?, hid]
        rfl
      cases hsame.symm.trans hwrote
      exact ⟨List.mem_cons_of_mem _ (List.mem_singleton.mpr rfl), .inl (List.mem_cons_self ..)⟩
  | delete oldId =>
    cases h
    rcases a with _ | _
    · cases hwrote
    · cases hwrote
      exact ⟨List.mem_cons_of_mem _ (List.mem_singleton.mpr rfl), .inl (List.mem_cons_self ..)⟩

/-- In a world that agrees in which nothing has been begun, nothing is had that the store does not
have. -/
theorem before_nil {s : System σ} (hidle : s.threads = []) (hagrees : s.world.Agrees S)
    (hrules : ∀ r ∈ S.rules s.world.store, r.Faithful)
    (hhad : had (ruleWith? (S.rules s.world.store) id)) : Before S id had s [] := by
  refine ⟨hhad, hrules, fun key text htext => ?_, fun j p hp => ?_, fun j p hp => ?_⟩
  · exact (hagrees key text htext).slotFits (S.wellKept _) hhad
  · rw [hidle] at hp
    exact nomatch hp
  · rw [hidle] at hp
    exact nomatch hp

/-- What is asked of all that happens after operation `i` has written a rule, up to the answer of a
read that looks up some keys. -/
structure Undisturbed (id : Uuid) (before : List Event) (i : Nat) (keys : List String)
    (events : List Event) : Prop where
  /-- The rules that operations bring along are faithful. -/
  faithful : ∀ op, .begins op ∈ events → op.Faithful
  /-- The rule is not written again. -/
  last : ∀ e ∈ events, ¬ e.Writes id
  /-- No operation that had asked the store before sets one of the keys after the write has deleted
  it. -/
  late : ∀ key ∈ keys, ¬ Late before events i key

theorem Since.step_of_undisturbed (havail : S.Available) (hdelete : ¬ hz.fails .delete)
    {events future : List Event} (hevents : Undisturbed id before i keys events)
    (h : Since S id had want before i keys s past) (heq : past ++ e :: future = events)
    (hstep : Step S hz repo s e s') : Since S id had want before i keys s' (past ++ [e]) := by
  have hmem : e ∈ events := heq ▸ List.mem_append_right past (List.mem_cons_self ..)
  refine h.step havail hdelete hstep (fun op hop => hevents.faithful op (hop ▸ hmem))
    (hevents.last e hmem) ?_
  rintro key hkey j text ttl x rfl hdrops hasked
  exact hevents.late key hkey ⟨past, j, text, ttl, x, future, heq.symm, hdrops, hasked⟩

/-- A part of a run up to the call of a write. -/
theorem Before.runs (havail : S.Available) {s₁ : System σ} (h : Before S id had s [])
    (hrun : Runs S hz repo s before s₁) (hops : ∀ op, .begins op ∈ before → op.Faithful)
    (hwrites : ∀ j c a v, .asks j ⟨.store c, .ok a⟩ ∈ before → c.wrote? a = some (id, v) →
      had v) : Before S id had s₁ before := by
  refine hrun.invariant [] (fun {s s' past future e} h heq hstep => ?_) h
  rw [List.nil_append] at heq
  have hmem : e ∈ before := heq ▸ List.mem_append_right past (List.mem_cons_self ..)
  refine h.step havail hstep (fun op hop => hops op (hop ▸ hmem)) fun j c a v he => ?_
  exact hwrites j c a v (he ▸ hmem)

/-- A part of a run from the call of a write to its return. -/
theorem Since.runs_writing (havail : S.Available) (hdelete : ¬ hz.fails .delete) {s₁ : System σ}
    {since after : List Event} (hevents : Undisturbed id before i keys (since ++ after))
    (h : Since S id had want before i keys s []) (hwriting : Writing i stale s [])
    (hrun : Runs S hz repo s since s₁) :
    Since S id had want before i keys s₁ since ∧ Writing i stale s₁ since := by
  refine hrun.invariant
    (I := fun s past => Since S id had want before i keys s past ∧ Writing i stale s past) []
    (fun {s s' past future e} h heq hstep => ?_) ⟨h, hwriting⟩
  rw [List.nil_append] at heq
  have heq' : past ++ e :: (future ++ after) = since ++ after := by
    rw [← heq, List.append_assoc]
    rfl
  exact ⟨h.1.step_of_undisturbed havail hdelete hevents heq' hstep, h.2.step hstep⟩

/-- A part of a run from the beginning of a read to its answer. -/
theorem Since.runs_reading (havail : S.Available) (hdelete : ¬ hz.fails .delete) {s₁ : System σ}
    {events : List Event} (hevents : Undisturbed id before i keys (past ++ events))
    (hkeys : ∀ key ∈ keys, Drops past i key ∨ key = ruleKey id ∧ ∀ v, had v → v = none)
    (h : Since S id had want before i keys s past) (hread : Reading id want later keys j s)
    (hrun : Runs S hz repo s events s₁) : Reading id want later keys j s₁ := by
  refine (hrun.invariant (I := fun s past => Since S id had want before i keys s past ∧
    (∀ key ∈ keys, Drops past i key ∨ key = ruleKey id ∧ ∀ v, had v → v = none) ∧
    Reading id want later keys j s) past (fun {s s' past future e} h heq hstep => ?_)
    ⟨h, hkeys, hread⟩).2.2
  refine ⟨h.1.step_of_undisturbed havail hdelete hevents heq hstep, fun key hkey => ?_,
    h.2.2.step havail h.1 h.2.1 hstep⟩
  exact (h.2.1 key hkey).imp_left fun hdrops => drops_append.mpr (.inl hdrops)

/-- The keys that a read looks up for one rule. -/
def keysOf (id : Uuid) : RuleOperation → List String
  | .byId _ => [ruleKey id]
  | .enabledRules | .create _ | .update _ | .delete _ => [ruleKey id, listKey]

/-- **A read reflects a write that has returned before it was begun, unless some operation comes
late.** Let operations run at the same time in a world that agrees at first, and let operation `i`
be a write, which changes the rule with an identifier to what is wanted. Then a read that is begun
after the write has returned answers what is wanted, if no later call on the store changes that
rule, and no operation that had asked the store before the write did sets a key that the read looks
up after the write has deleted it. A rule that is created must be given an identifier that no rule
has had. -/
theorem reads_after_write (havail : S.Available) (hcached : repo.cached = true)
    (hdelete : ¬ hz.fails .delete) {start s₁ s₂ s₃ s₄ s₅ : System σ}
    {before since after : List Event} {op later : RuleOperation} {wr : Write} {a : wr.call.Answer}
    {p : Work RuleReply} {reply answer : RuleReply} (hidle : start.threads = [])
    (hagrees : start.world.Agrees S) (hrules : ∀ r ∈ S.rules start.world.store, r.Faithful)
    (hops : ∀ op, .begins op ∈ before → op.Faithful) (hbefore : Runs S hz repo start before s₁)
    (hwrite : op.write? = some wr) (horder : Reorders (repo.perform op) p)
    (hthread : s₁.threads[i]? = some p)
    (hcall : Step S hz repo s₁ (.asks i ⟨.store wr.call, .ok a⟩) s₂)
    (hwrote : wr.call.wrote? a = some (id, want))
    (hnew : ∀ r, op = .create r →
      ruleWith? (S.rules start.world.store) id = none ∧ ∀ e ∈ before, ¬ e.Writes id)
    (hsince : Runs S hz repo s₂ since s₃) (hreturned : s₃.threads[i]? = some (.done reply))
    (hlater : later = .byId id ∨ later = .enabledRules)
    (hbegins : Step S hz repo s₃ (.begins later) s₄) (hafter : Runs S hz repo s₄ after s₅)
    (hanswer : s₅.threads[s₃.threads.length]? = some (.done answer))
    (hevents : Undisturbed id before i (keysOf id later) (since ++ .begins later :: after)) :
    Reflects id want later answer := by
  obtain ⟨hlist, hrule⟩ := stale_of_wrote hwrite hwrote
  -- Of an update or a deletion it does not matter what the store has had. A new identifier had
  -- nothing.
  obtain ⟨had, hstart, hhad, hunused⟩ : ∃ had : Option Rule → Prop,
      had (ruleWith? (S.rules start.world.store) id) ∧
      (∀ j c b v, .asks j ⟨.store c, .ok b⟩ ∈ before → c.wrote? b = some (id, v) → had v) ∧
      (ruleKey id ∈ wr.stale (.ok a) ∨ ∀ v, had v → v = none) := by
    rcases hrule with hstale | ⟨r, hr⟩
    · exact ⟨fun _ => True, trivial, fun _ _ _ _ _ _ => trivial, .inl hstale⟩
    · obtain ⟨hnone, hnever⟩ := hnew r hr
      refine ⟨(· = none), hnone, fun j c b v hmem hb => ?_, .inr fun _ hv => hv⟩
      exact absurd ⟨j, c, b, v, rfl, hb⟩ (hnever _ hmem)
  have hfirst := (before_nil hidle hagrees hrules hstart).runs havail hbefore hops hhad
  obtain ⟨hcalled, hwriting⟩ := hfirst.write havail hcached hwrite horder hthread hcall hwrote
  obtain ⟨hsecond, hwritten⟩ := hcalled.runs_writing havail hdelete hevents hwriting hsince
  have hdrops := hwritten.drops hreturned
  have hkeys : ∀ key ∈ keysOf id later,
      Drops (since ++ [.begins later]) i key ∨ key = ruleKey id ∧ ∀ v, had v → v = none := by
    intro key hkey
    -- Both kinds of read look up only these two keys.
    have hkey' : key = ruleKey id ∨ key = listKey := by
      rcases hlater with rfl | rfl
      · exact .inl (List.mem_singleton.mp hkey)
      · exact (List.mem_cons.mp hkey).imp_right List.mem_singleton.mp
    rcases hkey' with rfl | rfl
    · exact hunused.imp (fun hstale => drops_append.mpr (.inl (hdrops _ hstale))) fun h => ⟨rfl, h⟩
    · exact .inl (drops_append.mpr (.inl (hdrops _ hlist)))
  have hfourth := hsecond.step_of_undisturbed havail hdelete hevents rfl hbegins
  have hread : Reading id want later (keysOf id later) s₃.threads.length s₄ := by
    cases hbegins with
    | @begins _ p horder =>
      refine ⟨p, List.getElem?_concat_length, horder.sound_iff.mp ?_⟩
      apply repo.sound_read_slot
      · rcases hlater with rfl | rfl
        · exact List.mem_singleton.mpr rfl
        · exact List.mem_cons_self ..
      · refine hlater.imp_right fun h => ⟨h, ?_⟩
        subst h
        exact List.mem_cons_of_mem _ (List.mem_singleton.mpr rfl)
  have hevents' :
      Undisturbed id before i (keysOf id later) (since ++ [.begins later] ++ after) := by
    rw [List.append_assoc]
    exact hevents
  obtain ⟨p, hp, hsound⟩ := hfourth.runs_reading havail hdelete hevents' hkeys hread hafter
  rw [hanswer] at hp
  cases hp
  exact hsound

/-- An update and a read at the same time. The read looks the rule up and finds nothing before the
update calls the store. It asks the store after that, and puts what it is told into the cache when
the update has deleted the key and returned. The read after it finds there what was written. -/
theorem reads_after_write_overlapping :
    ∃ new stored s answer,
      Runs Memory.store .calm (Repository.mk true 60 300)
        ⟨⟨Memory.single (.onStatus "up"), fun _ => none⟩, []⟩
        [.begins (.byId (.ofNat 1)),
          .asks 0 ⟨.cache (.get (ruleKey (.ofNat 1))), .ok none⟩,
          .asks 0 ⟨.observe (.lookup "rule" .miss), ()⟩,
          .begins (.update new),
          .asks 1 ⟨.store (.update new), .ok (some stored)⟩,
          .asks 0 ⟨.store (.fetchById (.ofNat 1)), .ok (some stored)⟩,
          .asks 1 ⟨.cache (.delete (ruleKey (.ofNat 1))), .ok ()⟩,
          .asks 1 ⟨.cache (.delete listKey), .ok ()⟩,
          .asks 0 ⟨.cache (.set (ruleKey (.ofNat 1)) stored.text 300), .ok ()⟩,
          .begins (.byId (.ofNat 1)),
          .asks 2 ⟨.cache (.get (ruleKey (.ofNat 1))), .ok (some stored.text)⟩,
          .asks 2 ⟨.observe (.lookup "rule" .hit), ()⟩] s ∧
      s.threads[2]? = some (.done answer) ∧ stored.name = "down" ∧
      Reflects (.ofNat 1) (some stored) (.byId (.ofNat 1)) answer := by
  obtain ⟨new, hnew, hdown, hfaithful, hshallow⟩ := Rule.exists_faithful (.ofNat 1) "down"
  obtain ⟨stored, m, hupdate, hfetch, -, hid, hname, htimes⟩ :=
    Memory.exists_update_single (.onStatus "up") hnew
  have hread : Rule.read? stored.text = some stored := by
    obtain ⟨_, _, rfl⟩ := htimes
    exact Rule.read?_text_of_shallow ⟨hfaithful.ordered, hfaithful.survives⟩ hshallow
  generalize hrepo : Repository.mk true 60 300 = repo
  have hcached : repo.cached = true := hrepo ▸ rfl
  have hwrite := RuleOperation.write?_update hnew
  obtain ⟨rest, hlooked, hrest⟩ := exists_fetching Memory.store .calm hcached (.ofNat 1)
  -- The first read has found nothing, and the update is begun.
  have hbefore : Runs Memory.store .calm repo
      ⟨⟨Memory.single (.onStatus "up"), fun _ => none⟩, []⟩
      [.begins (.byId (.ofNat 1)), .asks 0 ⟨.cache (.get (ruleKey (.ofNat 1))), .ok none⟩,
        .asks 0 ⟨.observe (.lookup "rule" .miss), ()⟩, .begins (.update new)]
      ⟨⟨Memory.single (.onStatus "up"), fun _ => none⟩,
        [.ask (.store (.fetchById (.ofNat 1))) rest, repo.perform (.update new)]⟩ :=
    (Runs.begins_alone (hlooked _ rfl)).trans (.next (.begins (.refl _)) (.refl _))
  have hcall : Step Memory.store .calm repo
      ⟨⟨Memory.single (.onStatus "up"), fun _ => none⟩,
        [.ask (.store (.fetchById (.ofNat 1))) rest, repo.perform (.update new)]⟩
      (.asks 1 ⟨.store (.update new), .ok (some stored)⟩)
      ⟨⟨m, fun _ => none⟩, [.ask (.store (.fetchById (.ofNat 1))) rest, _]⟩ :=
    .asks (congrArg some (repo.perform_write hwrite)) (.inl rfl) (.of_answer hupdate)
  -- The read gets what was written, the update deletes its two keys, and the read sets the one.
  have hfetched (p : Work RuleReply) : Step Memory.store .calm repo
      ⟨⟨m, fun _ => none⟩, [.ask (.store (.fetchById (.ofNat 1))) rest, p]⟩
      (.asks 0 ⟨.store (.fetchById (.ofNat 1)), .ok (some stored)⟩)
      ⟨⟨m, fun _ => none⟩, [rest (.ok (some stored)), p]⟩ :=
    .asks rfl (.inl rfl) (.of_answer hfetch)
  have hforget : Runs Memory.store .calm repo
      ⟨⟨m, fun _ => none⟩, [rest (.ok (some stored)), _]⟩ _ ⟨_, [rest (.ok (some stored)), _]⟩ :=
    .alone (i := 1) rfl (reaches_forgetAll hcached (.done (RuleReply.updated (.ok (some stored))))
      [ruleKey (.ofNat 1), listKey] _)
  have hset (w : World { m : Memory // m.InOrder }) (p : Work RuleReply) :
      Step Memory.store .calm repo ⟨w, [rest (.ok (some stored)), p]⟩
        (.asks 0 ⟨.cache (.set (ruleKey (.ofNat 1)) stored.text repo.ruleTtl), .ok ()⟩)
        ⟨w.put (ruleKey (.ofNat 1)) stored.text, [.done (.rule (.ok (some stored))), p]⟩ := by
    rw [hrest stored hid]
    exact .asks (s := ⟨w, [_, p]⟩) (i := 0) rfl (.inl rfl) .set
  have hsince := Runs.next (hfetched _) (hforget.trans (.next (hset _ _) (.refl _)))
  have hafter (w : World { m : Memory // m.InOrder }) (p q : Work RuleReply) :
      Runs Memory.store .calm repo
        ⟨w.put (ruleKey (.ofNat 1)) stored.text, [p, q, repo.perform (.byId (.ofNat 1))]⟩ _ _ :=
    .alone (i := 2) rfl (reaches_byId_cached hcached (World.entries_put_self _ _ _) hread)
  subst hrepo
  refine ⟨new, stored, _, _,
    hbefore.trans (.next hcall (hsince.trans (.next (.begins (.refl _)) (hafter _ _ _)))),
    rfl, hname.trans hdown, ?_⟩
  have hwrote : StoreCall.wrote? (.update new) (some stored) = some (.ofNat 1, some stored) := by
    rw [StoreCall.wrote?, hnew]
    rfl
  refine reads_after_write Memory.available_store hcached id rfl World.agrees_of_empty
    (Memory.faithful_single (Rule.faithful_onStatus "up")) ?_ hbefore hwrite (.refl _) rfl hcall
    hwrote (fun _ h => by cases h) hsince rfl (.inl rfl) (.begins (.refl _)) (hafter _ _ _) rfl ?_
  · intro op hop
    simp only [List.mem_cons, reduceCtorEq, Event.begins.injEq, List.not_mem_nil, or_false,
      false_or] at hop
    rcases hop with rfl | rfl
    · trivial
    · exact hfaithful
  · constructor
    · intro op hop
      simp only [List.map_cons, List.map_nil, List.cons_append, List.nil_append, List.mem_cons,
        reduceCtorEq, Event.begins.injEq, List.not_mem_nil, or_false, false_or] at hop
      subst hop
      trivial
    · -- Only the fetch is a call on the store.
      rintro e he ⟨j, c, b, v, rfl, hv⟩
      simp only [List.map_cons, List.map_nil, List.cons_append, List.nil_append, List.mem_cons,
        Event.asks.injEq, Sigma.mk.injEq, reduceCtorEq, Request.store.injEq, false_and, and_false,
        List.not_mem_nil, or_false] at he
      obtain ⟨-, rfl, -⟩ := he
      cases hv
    · -- Before the write no operation had asked the store.
      rintro key - ⟨past, j, text, ttl, x, future, -, -, c, y, hasked⟩
      simp only [List.mem_cons, Event.asks.injEq, Sigma.mk.injEq, reduceCtorEq, false_and,
        and_false, List.not_mem_nil, or_self] at hasked

/-- Two cases in which a read finds the old rule. In the first an operation comes late: it is told
of the rule before the update calls the store, and puts what it was told into the cache after the
update has deleted the key; a read that is begun when the update has returned finds it. In the
second a deletion returns that has found no rule, because another one has removed it, which has not
deleted the key yet. -/
theorem stale_after_write :
    (∃ old new trace₀ trace₁ trace₂ trace₃ s₁ s₂ s₃ s₄,
      Runs Memory.store .calm (Repository.mk true 60 300)
        ⟨⟨Memory.single (.onStatus "up"), fun _ => none⟩, []⟩
        (.begins (.byId (.ofNat 1)) :: List.map (.asks 0) trace₀) s₁ ∧
      Runs Memory.store .calm (Repository.mk true 60 300) s₁
        (.begins (.update new) :: List.map (.asks 1) trace₁) s₂ ∧
      Runs Memory.store .calm (Repository.mk true 60 300) s₂ (List.map (.asks 0) trace₂) s₃ ∧
      (∃ stored, s₃.threads[1]? = some (.done (.updated (.ok (some stored)))) ∧
        ruleWith? (Memory.store.rules s₄.world.store) (.ofNat 1) = some stored ∧
        stored.name = "down") ∧
      Runs Memory.store .calm (Repository.mk true 60 300) s₃
        (.begins (.byId (.ofNat 1)) :: List.map (.asks 2) trace₃) s₄ ∧
      s₄.threads[2]? = some (.done (.rule (.ok (some old)))) ∧ old.name = "up") ∧
    ∃ old trace₀ trace₁ trace₂ s₁ s₂ s₃, (warmSingle (.onStatus "up")).Agrees Memory.store ∧
      Runs Memory.store .calm (Repository.mk true 60 300) ⟨warmSingle (.onStatus "up"), []⟩
        (.begins (.delete (.ofNat 1)) :: List.map (.asks 0) trace₀) s₁ ∧
      Runs Memory.store .calm (Repository.mk true 60 300) s₁
        (.begins (.delete (.ofNat 1)) :: List.map (.asks 1) trace₁) s₂ ∧
      s₂.threads[1]? = some (.done (.deleted (.ok false))) ∧
      ruleWith? (Memory.store.rules s₃.world.store) (.ofNat 1) = none ∧
      Runs Memory.store .calm (Repository.mk true 60 300) s₂
        (.begins (.byId (.ofNat 1)) :: List.map (.asks 2) trace₂) s₃ ∧
      s₃.threads[2]? = some (.done (.rule (.ok (some old)))) := by
  have hread := Rule.read?_onStatus "up" (some (.ofNat 1))
  constructor
  · obtain ⟨new, hnew, hdown, -, -⟩ := Rule.exists_faithful (.ofNat 1) "down"
    obtain ⟨stored, m, hupdate, -, hstored, -, hname, -⟩ :=
      Memory.exists_update_single (.onStatus "up") hnew
    have hold : Memory.store.answer (.fetchById (.ofNat 1)) (Memory.single (.onStatus "up")) =
      (.ok (some { Rule.onStatus "up" with id := some (.ofNat 1) }),
        Memory.single (.onStatus "up")) := rfl
    refine ⟨_, new, _, _, [⟨.cache (.set _ _ _), .ok ()⟩], _, _, _, _, _,
      .begins_alone (reaches_byId_missed rfl rfl rfl hold),
      .begins_alone (reaches_write_alone rfl (RuleOperation.write?_update hnew) hupdate),
      .alone rfl (.next (.inl rfl) .set (.refl _ _)), ⟨stored, rfl, hstored, hname.trans hdown⟩,
      .begins_alone (reaches_byId_cached rfl (World.entries_put_self _ _ _) hread), rfl, rfl⟩
  · have hagrees := agrees_warmSingle (Rule.faithful_onStatus "up")
    have hentry := entries_warmSingle_self (.onStatus "up")
    have hwrite : (RuleOperation.delete (.ofNat 1)).write? = some _ := rfl
    have hremoved : Runs Memory.store .calm (Repository.mk true 60 300)
        ⟨warmSingle (.onStatus "up"), []⟩
        (.begins (.delete (.ofNat 1)) :: List.map (.asks 0) _) _ :=
      .begins_alone (.next (.inl rfl) .store (.refl _ _))
    exact ⟨_, _, _, _, _, _, _, hagrees, hremoved,
      .begins_alone (reaches_write_alone rfl hwrite rfl), rfl, rfl,
      .begins_alone (reaches_byId_cached rfl hentry hread), rfl⟩

end System

end AlertRules
