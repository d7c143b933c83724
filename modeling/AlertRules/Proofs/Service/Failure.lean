import AlertRules.Proofs.Codec.Outline
import AlertRules.Proofs.Service.Errand

/-!
# Failed requests

A request that fails leaves no trace: not in the store, and not in the cache either. It need not
fail at once. An operation may have looked things up by then, and the store may have been asked; but
nothing is put into the cache or taken from it before the store has done all it is asked to do, and
after that nothing fails.

So up to a failure all exchanges are harmless (`Exchange.Harmless`). On the program this is a
condition on what may come of each answer (`Spotless`): either the exchange is harmless, and the
rest is spotless, or from then on every way leads to success (`Always`). It is proved of the
operations one by one.

Before anything else a request is checked. One that is refused for what it holds (`Service.Refuses`)
is only noted.

> `failed_request_changes_nothing`: whatever store and cache hold, and whichever calls fail, a
> request that is answered by an error leaves them as they were; one that is refused has not asked
> them at all.
-/

namespace AlertRules

/-! ## Harmless exchanges -/

/-- That a request, with the answer it got, has changed nothing: it only asked, or the store has
failed, or has found no rule to update. -/
inductive Exchange.Harmless : Exchange → Prop
  | observe (o : Observation) (x : Unit) : Harmless ⟨.observe o, x⟩
  | get (key : String) (x : Except RuleFault (Option String)) : Harmless ⟨.cache (.get key), x⟩
  | read {c : StoreCall} (h : c.isRead) (x : Except RuleFault c.Answer) : Harmless ⟨.store c, x⟩
  | failed (c : StoreCall) (f : RuleFault) : Harmless ⟨.store c, .error f⟩
  | notFound (r : Rule) : Harmless ⟨.store (.update r), .ok none⟩

/-- That every way through a program leads to a good result. -/
def Always {α : Type} (good : α → Prop) : Work α → Prop
  | .done a => good a
  | .ask _ rest => ∀ x, Always good (rest x)

/-- That a program has changed nothing unless its result is fine. -/
def Spotless {α : Type} (fine : α → Prop) : Work α → Prop
  | .done _ => True
  | .ask r rest =>
    ∀ x, (Exchange.Harmless ⟨r, x⟩ ∧ Spotless fine (rest x)) ∨ Always fine (rest x)

namespace Always

variable {α β : Type} {good mid : α → Prop} {goal : β → Prop}

theorem andThen {p : Work α} {f : α → Work β} (hp : Always mid p)
    (hf : ∀ a, mid a → Always goal (f a)) : Always goal (p.andThen f) := by
  induction p with
  | done a => exact hf a hp
  | ask r rest ih => exact fun x => ih x (hp x)

/-- A program may come to any result that it cannot avoid. -/
theorem of_forall (h : ∀ a, good a) (p : Work α) : Always good p := by
  induction p with
  | done a => exact h a
  | ask r rest ih => exact fun x => ih x

/-- What goes on to a good result in any case does not depend on what was before. -/
theorem after (p : Work α) {f : α → Work β} (hf : ∀ a, Always goal (f a)) :
    Always goal (p.andThen f) := (of_forall (fun _ => trivial) p).andThen fun a (_ : True) => hf a

theorem spotless {p : Work α} (h : Always good p) : Spotless good p := by
  cases p with
  | done a => trivial
  | ask r rest => exact fun x => .inr (h x)

end Always

namespace Spotless

variable {α β : Type} {fine : α → Prop} {mid : α → Prop} {goal : β → Prop}

theorem andThen {p : Work α} {f : α → Work β} (hp : Spotless mid p)
    (hf : ∀ a, Spotless goal (f a)) (hmid : ∀ a, mid a → Always goal (f a)) :
    Spotless goal (p.andThen f) := by
  induction p with
  | done a => exact hf a
  | ask r rest ih =>
    intro x
    rcases hp x with ⟨hharmless, hrest⟩ | hrest
    · exact .inl ⟨hharmless, ih x hrest⟩
    · exact .inr (hrest.andThen hmid)

/-- After what changes nothing in any case, it depends on the rest. -/
theorem before {p : Work α} {f : α → Work β} (hp : Spotless (fun _ => False) p)
    (hf : ∀ a, Spotless goal (f a)) : Spotless goal (p.andThen f) :=
  hp.andThen hf fun _ h => h.elim

theorem orFail {ε : Type} {goal : Except ε β → Prop} {p : Work (Except ε α)}
    {f : α → Work (Except ε β)} (hp : Spotless (·.isOk) p) (hf : ∀ a, Always goal (f a)) :
    Spotless goal (p.orFail f) := by
  refine hp.andThen (fun x => ?_) fun x hx => ?_
  · cases x with
    | ok a => exact (hf a).spotless
    | error e => trivial
  · cases x with
    | ok a => exact hf a
    | error e => exact nomatch hx

/-- A call on the store that fails changes nothing. One that does not is to change nothing either,
or to lead to success. -/
theorem askStore {goal : Except RuleFault β → Prop} {c : StoreCall}
    {f : c.Answer → Work (Except RuleFault β)}
    (h : ∀ a, (Exchange.Harmless ⟨.store c, .ok a⟩ ∧ Spotless goal (f a)) ∨ Always goal (f a)) :
    Spotless goal (Program.orFail (Work.askStore c) f) := by
  intro x
  cases x with
  | ok a => exact h a
  | error e => exact .inl ⟨.failed c e, trivial⟩

end Spotless

/-- A program that asks nothing of importance changes nothing. -/
theorem Idle.spotless {α : Type} {fine : α → Prop} {p : Work α} (h : Idle p) : Spotless fine p := by
  induction p with
  | done a => trivial
  | ask r rest ih =>
    intro x
    obtain ⟨hidle, hrest⟩ := h
    refine .inl ⟨?_, ih x (hrest x)⟩
    cases r with
    | observe o => exact .observe o x
    | cache c => exact nomatch hidle
    | store c =>
      cases c with
      | ping => exact .read rfl x
      | fetchEnabled => exact nomatch hidle
      | fetchById id => exact nomatch hidle
      | fetchByIds ids => exact nomatch hidle
      | insert r => exact nomatch hidle
      | update r => exact nomatch hidle
      | remove id => exact nomatch hidle

/-! ## Operations -/

namespace Repository

variable (repo : Repository)

theorem spotless_lookUp {fine : Option String → Prop} (kind key : String) :
    Spotless fine (repo.lookUp kind key) := by
  unfold lookUp
  split
  · intro x
    refine .inl ⟨.get key x, ?_⟩
    match x with
    | .ok (some text) => exact fun y => .inl ⟨.observe _ y, trivial⟩
    | .ok none => exact fun y => .inl ⟨.observe _ y, trivial⟩
    | .error f => exact fun y => .inl ⟨.observe _ y, trivial⟩
  · trivial

theorem spotless_cachedIds {fine : Option (List Uuid) → Prop} : Spotless fine repo.cachedIds :=
  (repo.spotless_lookUp _ _).before fun _ => trivial

theorem spotless_cachedRule {fine : Option Rule → Prop} (id : Uuid) :
    Spotless fine (repo.cachedRule id) := (repo.spotless_lookUp _ _).before fun _ => trivial

theorem spotless_cachedRules {fine : List (Uuid × Option Rule) → Prop} (ids : List Uuid) :
    Spotless fine (repo.cachedRules ids) := by
  induction ids generalizing fine with
  | nil => trivial
  | cons id rest ih =>
    exact (repo.spotless_cachedRule id).before fun _ => ih.before fun _ => trivial

theorem spotless_resolveIds (ids : List Uuid) : Spotless (·.isOk) (repo.resolveIds ids) := by
  refine (repo.spotless_cachedRules ids).before fun found => ?_
  -- The match is on what is missing, which is nothing a case split on `found` would reduce.
  generalize missing found = absent
  cases absent with
  | nil => trivial
  | cons id rest =>
    exact Spotless.askStore fun rules => .inr (Always.after (repo.cacheRules rules) fun _ => rfl)

theorem spotless_enabledRules : Spotless (·.isOk) repo.enabledRules := by
  refine repo.spotless_cachedIds.before fun found => ?_
  cases found with
  | some ids => exact (repo.spotless_resolveIds ids).orFail fun _ => rfl
  | none =>
    exact Spotless.askStore fun rules => .inr (Always.after (repo.cacheEnabled rules) fun _ => rfl)

/-- That a rule was found. -/
def Finds : Except RuleFault (Option Rule) → Prop
  | .ok (some _) => True
  | .ok none | .error _ => False

theorem spotless_byId (id : Uuid) : Spotless Finds (repo.byId id) := by
  refine (repo.spotless_cachedRule id).before fun cached => ?_
  cases cached with
  | some r => trivial
  | none =>
    refine Spotless.askStore fun found => ?_
    cases found with
    | some r => exact .inr (Always.after (repo.cacheRule r) fun _ => trivial)
    | none => exact .inl ⟨.read rfl _, trivial⟩

theorem spotless_create (r : Rule) : Spotless (·.isOk) (repo.create r) :=
  Spotless.askStore fun _ => .inr (Always.after (repo.forget listKey) fun _ => rfl)

theorem spotless_update (r : Rule) : Spotless Finds (repo.update r) := by
  unfold update
  split
  next => trivial
  next id _ =>
    refine Spotless.askStore fun updated => ?_
    cases updated with
    | some stored => exact .inr (Always.after (repo.forgetRule id) fun _ => trivial)
    | none => exact .inl ⟨.notFound r, trivial⟩

theorem spotless_delete (id : Uuid) : Spotless (·.isOk) (repo.delete id) := by
  refine Spotless.askStore fun removed => .inr ?_
  cases removed with
  | true => exact Always.after (repo.forgetRule id) fun _ => rfl
  | false => rfl

end Repository

/-! ## Requests -/

namespace Service

variable {s : Service} {repo : Repository}

/-- **An errand has changed nothing unless it succeeds.** -/
theorem spotless_errand {q : ServiceRequest} {e : Errand} (h : s.errand? q = some e) :
    Spotless (·.isOk) ((e.work repo).andThen e.conclude) := by
  have hconclude : ∀ x, Spotless (·.isOk) (e.conclude x) := fun x => (e.idle_conclude x).spotless
  cases q with
  | evaluateEvent event =>
    obtain ⟨v, -, rfl⟩ := Option.map_eq_some_iff.mp h
    refine repo.spotless_enabledRules.andThen hconclude fun x hx => ?_
    cases x with
    | ok rules => exact Always.after _ fun _ => rfl
    | error f => exact nomatch hx
  | createRule m =>
    obtain ⟨r, -, rfl⟩ := Option.map_eq_some_iff.mp h
    refine (repo.spotless_create r).andThen hconclude fun x hx => ?_
    cases x with
    | ok created => rfl
    | error f => exact nomatch hx
  | getRule raw =>
    obtain ⟨id, -, rfl⟩ := Option.map_eq_some_iff.mp h
    refine (repo.spotless_byId id).andThen hconclude fun x hx => ?_
    match x with
    | .ok (some r) => rfl
    | .ok none => exact hx.elim
    | .error f => exact hx.elim
  | updateRule m =>
    obtain ⟨⟨id, r⟩, -, rfl⟩ := Option.map_eq_some_iff.mp h
    refine (repo.spotless_update r).andThen hconclude fun x hx => ?_
    match x with
    | .ok (some r) => rfl
    | .ok none => exact hx.elim
    | .error f => exact hx.elim
  | deleteRule raw =>
    obtain ⟨id, -, rfl⟩ := Option.map_eq_some_iff.mp h
    refine (repo.spotless_delete id).andThen hconclude fun x hx => ?_
    cases x with
    | ok deleted => rfl
    | error f => exact nomatch hx
  | listEnabledRules =>
    cases h
    refine repo.spotless_enabledRules.andThen hconclude fun x hx => ?_
    cases x with
    | ok rules => rfl
    | error f => exact nomatch hx
  | testRule m event => exact nomatch h
  | healthCheck => exact nomatch h

theorem spotless_carryOut (s : Service) (q : ServiceRequest) :
    Spotless (·.isOk) (s.carryOut q) := by
  cases hrepo : s.repository with
  | none => exact (idle_carryOut (.inl hrepo)).spotless
  | some repo =>
    cases herrand : s.errand? q with
    | none => exact (idle_carryOut (.inr herrand)).spotless
    | some e =>
      rw [carryOut_eq hrepo herrand]
      exact spotless_errand herrand

/-- **A request has changed nothing unless its answer is good.** -/
theorem spotless_handle (s : Service) (q : ServiceRequest) : Spotless (·.isOk) (s.handle q) := by
  refine (s.spotless_carryOut q).andThen (fun answer => ?_) fun answer hanswer => ?_
  · exact fun x => .inl ⟨.observe _ x, trivial⟩
  · exact fun _ => hanswer

end Service

/-! ## Requests that are refused -/

namespace Service

variable (s : Service)

/-- That a rule is refused: it is missing, is none that can be read, or does not pass the checks. -/
def RefusesRule (m : Option RuleMessage) : Prop :=
  m = none ∨ ∃ msg, m = some msg ∧
    ((∃ f, msg.toRule = .error f) ∨ ∃ r f, msg.toRule = .ok r ∧ s.validator.check r = .error f)

/-- That the text of an identifier is refused: it is blank, or is none that can be read. -/
def RefusesId (raw : String) : Prop :=
  Text.isBlank raw = true ∨ Uuid.ofString? (Text.trim raw) = none

/-- That a request is refused for what it holds. -/
inductive Refuses : ServiceRequest → Prop
  | createRule {m : Option RuleMessage} (h : s.RefusesRule m) : Refuses (.createRule m)
  | updateRule {m : Option RuleMessage} (h : s.RefusesRule m) : Refuses (.updateRule m)
  | updateWithoutId {m : RuleMessage} {r : Rule} (h : m.toRule = .ok r) (hid : r.id = none) :
    Refuses (.updateRule (some m))
  | testRule {m : Option RuleMessage} {event : Option EventMessage} (h : s.RefusesRule m) :
    Refuses (.testRule m event)
  | getRule {raw : String} (h : RefusesId raw) : Refuses (.getRule raw)
  | deleteRule {raw : String} (h : RefusesId raw) : Refuses (.deleteRule raw)

variable {s}

/-- What is not in order is refused at once. -/
theorem accepted_of_ne_ok {α β : Type} {checked : Except Status α}
    {work : α → Work (Except Status β)} (h : ∀ a, checked ≠ .ok a) :
    ∃ status, accepted checked work = .done (.error status) := by
  cases checked with
  | ok a => exact absurd rfl (h a)
  | error status => exact ⟨status, rfl⟩

/-- A rule that is refused is not both sent and valid. -/
theorem RefusesRule.not_valid {m : Option RuleMessage} (h : s.RefusesRule m) {msg : RuleMessage}
    {r : Rule} (hmsg : m = some msg) (hread : msg.toRule = .ok r) :
    s.validator.check r ≠ .ok () := by
  subst hmsg
  rcases h with hnone | ⟨msg', heq, hrefused⟩
  · exact nomatch hnone
  · cases heq
    rcases hrefused with ⟨f, herror⟩ | ⟨r', f, hread', hcheck⟩
    · rw [hread] at herror
      exact nomatch herror
    · rw [hread] at hread'
      cases hread'
      rw [hcheck]
      exact fun heq => nomatch heq

theorem requiredId_ne_ok {raw : String} (h : RefusesId raw) (id : Uuid) :
    requiredId raw ≠ .ok id := by
  unfold requiredId Uuid.ofMessage
  cases hblank : Text.isBlank raw with
  | true => exact fun heq => nomatch heq
  | false =>
    have hnone : Uuid.ofString? (Text.trim raw) = none :=
      h.resolve_left fun htrue => nomatch hblank.symm.trans htrue
    rw [hnone]
    exact fun heq => nomatch heq

/-- **A refused request is answered by an error at once.** -/
theorem carryOut_of_refuses {q : ServiceRequest} (h : s.Refuses q) :
    ∃ status, s.carryOut q = .done (.error status) := by
  cases h with
  | createRule h =>
    refine accepted_of_ne_ok fun r hr => ?_
    obtain ⟨msg, sent, hmsg, hread, rfl, hvalid⟩ := of_ruleToCreate hr
    -- The identifier that is taken from the rule does not matter to the checks.
    exact h.not_valid hmsg hread ((s.validator.check_eq_of_outline rfl rfl).trans hvalid)
  | updateRule h =>
    refine accepted_of_ne_ok fun ⟨id, r⟩ hr => ?_
    obtain ⟨msg, hmsg, hread, -, hvalid⟩ := of_ruleToUpdate hr
    exact h.not_valid hmsg hread hvalid
  | updateWithoutId h hid =>
    refine accepted_of_ne_ok fun ⟨id, r⟩ hr => ?_
    obtain ⟨msg, hmsg, hread, hsome, -⟩ := of_ruleToUpdate hr
    cases hmsg
    rw [h] at hread
    cases hread
    rw [hid] at hsome
    exact nomatch hsome
  | testRule h =>
    refine accepted_of_ne_ok fun ⟨r, v⟩ hr => ?_
    obtain ⟨msg, sent, hmsg, hread, -, -, hvalid⟩ := of_ruleToTest hr
    exact h.not_valid hmsg hread hvalid
  | getRule h => exact accepted_of_ne_ok (requiredId_ne_ok h)
  | deleteRule h => exact accepted_of_ne_ok (requiredId_ne_ok h)

end Service

/-! ## Worlds -/

/-- That what a store and a cache hold is as before, but for entries that may have vanished. -/
structure World.Untouched {σ : Type} (S : RuleStore σ) (hz : Hazards) (w w' : World σ) : Prop where
  rules : S.rules w'.store = S.rules w.store
  entries : ∀ key, w'.entries key = w.entries key ∨ hz.expiry ∧ w'.entries key = none

namespace World

variable {σ : Type} {S : RuleStore σ} {hz : Hazards} {w w₁ w' : World σ}

theorem Untouched.refl (w : World σ) : w.Untouched S hz w := ⟨rfl, fun _ => .inl rfl⟩

theorem Untouched.trans (h : w.Untouched S hz w₁) (h' : w₁.Untouched S hz w') :
    w.Untouched S hz w' := by
  refine ⟨h'.rules.trans h.rules, fun key => ?_⟩
  rcases h'.entries key with hsame | hgone
  · rw [hsame]
    exact h.entries key
  · exact .inr hgone

theorem Fades.untouched (h : w.Fades hz w') : w.Untouched S hz w' := by
  rcases h with rfl | ⟨hexpiry, hstore, hentries⟩
  · exact .refl _
  · exact ⟨congrArg S.rules hstore, fun key => (hentries key).imp_right fun hnone =>
      ⟨hexpiry, hnone⟩⟩

/-- A store keeps its side: it changes nothing in a harmless exchange. -/
theorem Step.untouched {r : Request} {x : r.Answer} (h : w.Step S hz r x w')
    (hharmless : Exchange.Harmless ⟨r, x⟩) : w.Untouched S hz w' := by
  have hstore : ∀ {c : StoreCall} {y : Except RuleFault c.Answer}, w.Step S hz (.store c) y w' →
      (∀ after, c.Outcome (S.rules w.store) y after → after = S.rules w.store) →
        w.Untouched S hz w' := by
    intro c y hstep hsame
    obtain ⟨rfl, rfl⟩ := hstep.of_store
    exact ⟨hsame _ (S.lawful c w.store), fun _ => .inl rfl⟩
  cases hharmless with
  | observe o x =>
    obtain rfl := h.of_observe
    exact .refl _
  | get key x =>
    cases h with
    | get => exact .refl _
    | getFails => exact .refl _
  | read hread x => exact hstore h fun _ houtcome => houtcome.of_read hread
  | failed c f => exact hstore h fun _ houtcome => houtcome
  | notFound r => exact hstore h fun _ houtcome => houtcome.2

end World

section Runs

variable {α : Type} {good fine : α → Prop} {σ : Type} {S : RuleStore σ} {hz : Hazards}

theorem Always.reaches {p : Work α} {a : α} {w w' : World σ} {trace : List Exchange}
    (hp : Always good p) (hrun : Reaches S hz p w trace (.done a) w') : good a := by
  induction p generalizing w trace with
  | done b =>
    obtain ⟨-, hdone, -⟩ := Reaches.of_done hrun
    cases hdone
    exact hp
  | ask r rest ih =>
    obtain ⟨w₁, x, w₂, trace', -, -, hrest, -⟩ := Reaches.of_ask_done hrun
    exact ih x (hp x) hrest

/-- A run of a spotless program to a bad result leaves all as it was. -/
theorem Spotless.reaches {p : Work α} {a : α} {w w' : World σ} {trace : List Exchange}
    (hp : Spotless fine p) (ha : ¬ fine a) (hrun : Reaches S hz p w trace (.done a) w') :
    w.Untouched S hz w' := by
  induction p generalizing w trace with
  | done b =>
    obtain ⟨-, -, rfl⟩ := Reaches.of_done hrun
    exact .refl _
  | ask r rest ih =>
    obtain ⟨w₁, x, w₂, trace', hfade, hstep, hrest, -⟩ := Reaches.of_ask_done hrun
    rcases hp x with ⟨hharmless, hspotless⟩ | halways
    · exact (hfade.untouched.trans (hstep.untouched hharmless)).trans (ih x hspotless hrest)
    · exact absurd (halways.reaches hrest) ha

end Runs

/-! ## Whatever store and cache hold -/

/-- A store and a cache of any kind, which answer requests and fail when they will, but change
nothing in harmless exchanges. Nothing is said of which rules and entries they hold. -/
structure Backing (ω : Type) where
  rules : ω → List Rule
  entries : ω → List (String × String)
  answer : (r : Request) → ω → r.Answer × ω
  lawful : ∀ r b, Exchange.Harmless ⟨r, (answer r b).1⟩ →
    rules (answer r b).2 = rules b ∧ entries (answer r b).2 = entries b

/-- A call that has not failed was harmless if it was a read, or an update that found nothing. -/
theorem Exchange.Harmless.of_ok {c : StoreCall} {a : c.Answer} (h : Harmless ⟨.store c, .ok a⟩) :
    c.isRead = true ∨ ∃ r, (⟨c, a⟩ : (c : StoreCall) × c.Answer) = ⟨.update r, none⟩ := by
  cases h with
  | read hread _ => exact .inl hread
  | notFound r => exact .inr ⟨r, rfl⟩

/-- A call on the store in memory that does not fail leaves rules and entries alone if it is
harmless. -/
theorem Memory.answerStore_of_harmless (m : Memory) {c : StoreCall}
    (h : Exchange.Harmless ⟨.store c, .ok (m.answerStore c).1⟩) :
    (m.answerStore c).2.rules = m.rules ∧ (m.answerStore c).2.entries = m.entries := by
  cases c with
  | fetchEnabled => exact ⟨rfl, rfl⟩
  | fetchById id => exact ⟨rfl, rfl⟩
  | fetchByIds ids => exact ⟨rfl, rfl⟩
  | ping => exact ⟨rfl, rfl⟩
  | insert r => exact h.of_ok.elim (fun hread => nomatch hread) fun ⟨_, heq⟩ => nomatch heq
  | remove id => exact h.of_ok.elim (fun hread => nomatch hread) fun ⟨_, heq⟩ => nomatch heq
  | update r =>
    unfold answerStore at h ⊢
    dsimp only at h ⊢
    split at h
    next => exact ⟨rfl, rfl⟩
    next => exact h.of_ok.elim (fun hread => nomatch hread) fun ⟨_, heq⟩ => nomatch heq

/-- The store and the cache in memory, whichever of them is told to fail. -/
def Memory.backing : Backing Memory where
  rules := Memory.rules
  entries := Memory.entries
  answer := Memory.answer
  lawful
    | .observe _, _, _ => ⟨rfl, rfl⟩
    | .cache (.get key), m, _ => by
      unfold answer
      dsimp only
      split
      · exact ⟨rfl, rfl⟩
      · exact ⟨rfl, rfl⟩
    | .cache (.set _ _ _), _, h => nomatch h
    | .cache (.delete _), _, h => nomatch h
    | .store c, m, h => by
      unfold answer at h ⊢
      dsimp only at h ⊢
      cases hfault : m.storeFault with
      | some f => exact ⟨rfl, rfl⟩
      | none =>
        rw [hfault] at h
        exact answerStore_of_harmless _ h

section Backing

variable {α ω : Type} {good fine : α → Prop} (B : Backing ω)

theorem Always.run {p : Work α} (hp : Always good p) (b : ω) : good (p.run B.answer b).1 := by
  induction p generalizing b with
  | done a => exact hp
  | ask r rest ih => exact ih _ (hp _) _

theorem Spotless.run {p : Work α} (hp : Spotless fine p) (b : ω)
    (ha : ¬ fine (p.run B.answer b).1) :
    B.rules (p.run B.answer b).2 = B.rules b ∧ B.entries (p.run B.answer b).2 = B.entries b := by
  induction p generalizing b with
  | done a => exact ⟨rfl, rfl⟩
  | ask r rest ih =>
    rcases hp (B.answer r b).1 with ⟨hharmless, hspotless⟩ | halways
    · obtain ⟨hrules, hentries⟩ := B.lawful r b hharmless
      obtain ⟨hrules', hentries'⟩ := ih _ hspotless _ ha
      exact ⟨hrules'.trans hrules, hentries'.trans hentries⟩
    · exact absurd (halways.run B _) ha

end Backing

namespace Service

/-- **A failed request changes nothing.** If a request is answered by an error, whichever calls on
the cache or the store have failed, the rules of the store are as they were, and so are all entries
of the cache but those that have expired; of a store and a cache of any kind, with whatever they
hold, it is the same. A request that is refused for what it holds is answered by an error and noted,
and asks neither of them. -/
theorem failed_request_changes_nothing (s : Service) (q : ServiceRequest) :
    (∀ {σ : Type} (S : RuleStore σ) (hz : Hazards) {w w' : World σ} {trace : List Exchange}
      {status : Status}, Reaches S hz (s.handle q) w trace (.done (.error status)) w' →
        S.rules w'.store = S.rules w.store ∧
        ∀ key, w'.entries key = w.entries key ∨ hz.expiry ∧ w'.entries key = none) ∧
    (∀ {ω : Type} (B : Backing ω) {b b' : ω} {status : Status},
      (s.handle q).run B.answer b = (.error status, b') →
        B.rules b' = B.rules b ∧ B.entries b' = B.entries b) ∧
    (s.Refuses q → ∃ status, s.handle q =
      .ask (.observe (.request name q.method (statusName (.error status)))) fun _ =>
        .done (.error status)) := by
  have hspotless := s.spotless_handle q
  have hbad : ∀ status, ¬ (Except.error status : Except Status ServiceResponse).isOk = true :=
    fun _ => Bool.false_ne_true
  refine ⟨fun S hz w w' trace status hrun => ?_, fun B b b' status hrun => ?_, fun hrefuses => ?_⟩
  · have huntouched := hspotless.reaches (hbad status) hrun
    exact ⟨huntouched.rules, huntouched.entries⟩
  · have hrest := hspotless.run B b
    rw [hrun] at hrest
    exact hrest (hbad status)
  · obtain ⟨status, hstatus⟩ := carryOut_of_refuses hrefuses
    refine ⟨status, ?_⟩
    rw [handle, hstatus]
    rfl

/-- A memory with a rule that is on the cached list, but is not cached itself, and a store that
fails. -/
def outage : Memory where
  rules := [{ Rule.onStatus "up" with id := some (.ofNat 1) }]
  storeFault := some .storeUnavailable
  entries := [(Repository.listKey, "[\"00000000-0000-0000-0000-000000000001\"]")]

/-- To list the enabled rules then fails after two lookups in the cache, at the call on the store,
and rules and entries are as they were. To create a rule without sending one is refused. -/
theorem failed_request_changes_nothing_outage :
    ∃ status status' after,
      (({ repository := some { cached := true } } : Service).handle .listEnabledRules).run
        Memory.answer outage = (.error status, after) ∧
      after.log.length = 3 ∧ after.rules = outage.rules ∧ after.entries = outage.entries ∧
      ({ repository := none } : Service).Refuses (.createRule none) ∧
      ({ repository := none } : Service).handle (.createRule none) =
        .ask (.observe (.request name "CreateRule" (statusName (.error status')))) fun _ =>
          .done (.error status') := by
  have hfails :
      ((({ repository := some { cached := true } } : Service).handle .listEnabledRules).run
        Memory.answer outage).1 = .error RuleFault.storeUnavailable.toStatus := by decide +kernel
  have hlog : ((({ repository := some { cached := true } } : Service).handle .listEnabledRules).run
      Memory.answer outage).2.log.length = 3 := by decide +kernel
  obtain ⟨-, hbacked, -⟩ := failed_request_changes_nothing { repository := some { cached := true } }
    .listEnabledRules
  obtain ⟨hrules, hentries⟩ := hbacked Memory.backing (Prod.ext hfails (Eq.refl _))
  have hrefuses : ({ repository := none } : Service).Refuses (.createRule none) :=
    .createRule (.inl rfl)
  obtain ⟨-, -, hrefusal⟩ :=
    failed_request_changes_nothing { repository := none } (.createRule none)
  obtain ⟨status', hrefused⟩ := hrefusal hrefuses
  exact ⟨_, status', _, Prod.ext hfails rfl, hlog, hrules, hentries, hrefuses, hrefused⟩

end Service

end AlertRules
