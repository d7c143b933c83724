import AlertRules.Proofs.Engine
import AlertRules.Proofs.Service.Errand

/-!
# What a trial foretells

A trial evaluates a rule that is not stored; an event is evaluated against those that are, read back
through the cache and sorted twice. Both come to the engine, rule by rule: once the rule of the
trial is created, its match is among those of the event under the identifier it has been given, just
once, and no other match is gained, lost or moved.

> `Service.trial_foretells`: from any state that requests lead to, the matches of an event after a
> rule has been created are those before, and one more where the trial of that rule gives one.
-/

namespace AlertRules

open Json

/-- That a store puts a new rule somewhere among the others, and leaves these in their order. -/
def RuleStore.InsertsInPlace {σ : Type} (S : RuleStore σ) : Prop :=
  ∀ r s stored, (S.answer (.insert r) s).1 = .ok stored →
    ∃ front back, S.rules s = front ++ back ∧
      S.rules (S.answer (.insert r) s).2 = front ++ stored :: back

/-- The store in memory puts new rules at the end. -/
theorem Memory.insertsInPlace_store : store.InsertsInPlace := by
  intro r s stored hstored
  refine ⟨s.1.rules, [], (List.append_nil _).symm, ?_⟩
  have hanswer : (answerNumbered (.insert r) s.1).1 = .ok stored := hstored
  show (answerNumbered (.insert r) s.1).2.rules = _
  by_cases hmore : s.1.inserted + 1 < identifiers
  · rw [answerNumbered, if_pos hmore] at hanswer ⊢
    rw [← Except.ok.inj hanswer]
    rfl
  · rw [answerNumbered, if_neg hmore] at hanswer
    exact nomatch hanswer

theorem RuleMessage.enabled_of_toRule {m : RuleMessage} {r : Rule} (h : m.toRule = .ok r) :
    r.enabled = m.enabled.getD true := by
  obtain ⟨condition, -, h⟩ := bind_eq_ok h
  obtain ⟨actions, -, h⟩ := bind_eq_ok h
  obtain ⟨id, -, h⟩ := bind_eq_ok h
  obtain ⟨severity, -, h⟩ := bind_eq_ok h
  cases h
  rfl

namespace Service

variable {σ : Type} {S : RuleStore σ} {hz : Hazards} {w w' : World σ} {s : Service}
  {repo : Repository}

/-- What is told of an outcome is its match. -/
theorem trialOf_eq (o : Outcome) :
    ∃ reason, trialOf o = .trial (o.match?.map RuleMatch.toMessage) reason := by
  cases o with
  | matched m => exact ⟨_, rfl⟩
  | notMatched => exact ⟨_, rfl⟩
  | skipped f => exact ⟨_, rfl⟩

/-! ## The three requests -/

/-- The matches that are told of an event if the store has some rules. -/
def matchesOn (s : Service) (event : Value) (rules : List Rule) : List MatchMessage :=
  (s.engine.evaluate event (Rule.sortByPriority (enabledOf rules))).map RuleMatch.toMessage

/-- An event is evaluated against the enabled rules of the store, which stays as it is. -/
theorem of_evaluateEvent (havail : S.Available) (hrepo : s.repository = some repo) (hw : w.Tidy S)
    {event : EventMessage} {trace : List Exchange} {a : Except Status ServiceResponse}
    (hrun : Reaches S hz (s.handle (.evaluateEvent (some event))) w trace (.done a) w') :
    a = .ok (.found (s.matchesOn event.toValue (S.rules w.store))) ∧ w'.Tidy S ∧
      w'.store = w.store := by
  obtain ⟨trace₁, x, w₁, trace₂, w₂, hperform, hconclude, hfade⟩ :=
    of_errand (e := s.evaluation event.toValue) hrepo rfl hrun
  have hread : RuleOperation.enabledRules.isRead = true := rfl
  obtain ⟨hreads, hstore, hagrees⟩ :=
    Repository.reads_of_available havail hw.agrees hw.faithful hread hperform
  have hx : x = .ok (Rule.sortByPriority (enabledOf (S.rules w.store))) := by
    cases hreads with
    | enabledRules => rfl
    | enabledRulesFails h => exact h.elim
  subst hx
  have hw₁ : w₁.Tidy S := ⟨hagrees, by rw [hstore]; exact hw.faithful⟩
  obtain ⟨hw₂, hsame⟩ := ((s.evaluation event.toValue).idle_conclude _).tidy havail hconclude hw₁
  refine ⟨?_, hw₂.fades hfade, hfade.store_eq.trans (hsame.trans hstore)⟩
  obtain ⟨_, _, _, _, -, hdone, -⟩ := Reaches.of_andThen_done hconclude
  obtain ⟨-, hanswer, -⟩ := Reaches.of_done hdone
  cases hanswer
  rfl

/-- What is told of the answer of the store to a new rule. -/
def toldOfNew : Except RuleFault Rule → Except Status ServiceResponse
  | .ok stored => .ok (.rule stored.toMessage)
  | .error f => .error f.toStatus

/-- A rule that is in order is put into the store, and what is told is the answer of the store. -/
theorem of_createRule_inOrder (hrepo : s.repository = some repo) (hcached : repo.cached = true)
    (hdelete : ¬ hz.fails .delete) {m : Option RuleMessage} {r : Rule}
    (hr : s.ruleToCreate m = .ok r) {trace : List Exchange} {a : Except Status ServiceResponse}
    (hrun : Reaches S hz (s.handle (.createRule m)) w trace (.done a) w') :
    a = toldOfNew (S.answer (.insert r) w.store).1 ∧
      w'.store = (S.answer (.insert r) w.store).2 := by
  have herrand : s.errand? (.createRule m) = some (creation r) := by
    rw [errand?, hr]
    rfl
  obtain ⟨trace₁, x, w₁, trace₂, w₂, hperform, hconclude, hfade⟩ := of_errand hrepo herrand hrun
  have hwrites : (RuleOperation.create r).write? = some _ := rfl
  obtain ⟨hreply, hstore, -⟩ := Repository.reaches_write_done hcached hdelete hwrites hperform
  have hx : x = (S.answer (.insert r) w.store).1 := RuleReply.created.inj hreply
  have htold : (creation r).conclude x = .done (toldOfNew x) := by cases x <;> rfl
  rw [htold] at hconclude
  obtain ⟨-, hanswer, rfl⟩ := Reaches.of_done hconclude
  cases hanswer
  exact ⟨congrArg toldOfNew hx, hfade.store_eq.trans hstore⟩

/-- A rule that is created is the one that was sent, with what the store gave it. -/
theorem of_createRule (hrepo : s.repository = some repo) (hcached : repo.cached = true)
    (hdelete : ¬ hz.fails .delete) {m : RuleMessage} {trace : List Exchange} {q : RuleMessage}
    (hrun : Reaches S hz (s.handle (.createRule (some m))) w trace (.done (.ok (.rule q))) w') :
    ∃ sent stored, m.toRule = .ok sent ∧ s.validator.check sent = .ok () ∧
      (S.answer (.insert { sent with id := none }) w.store).1 = .ok stored ∧ q = stored.toMessage ∧
      w'.store = (S.answer (.insert { sent with id := none }) w.store).2 := by
  cases hcreate : s.ruleToCreate (some m) with
  | error status =>
    -- A request that is not in order is answered with an error.
    obtain ⟨trace₁, w₁, hcarry, -⟩ := of_handle hrun
    have hrefused : s.carryOut (.createRule (some m)) = .done (.error status) := by
      rw [carryOut, createRule, hcreate]
      rfl
    rw [hrefused] at hcarry
    obtain ⟨-, hdone, -⟩ := Reaches.of_done hcarry
    cases hdone
  | ok r =>
    obtain ⟨hanswer, hstore⟩ := of_createRule_inOrder hrepo hcached hdelete hcreate hrun
    obtain ⟨msg, sent, hmsg, hread, rfl, hvalid⟩ := of_ruleToCreate hcreate
    obtain rfl := Option.some.inj hmsg
    cases hinsert : (S.answer (.insert { sent with id := none }) w.store).1 with
    | error f =>
      rw [hinsert] at hanswer
      cases hanswer
    | ok stored =>
      rw [hinsert] at hanswer
      cases hanswer
      exact ⟨sent, stored, hread, hvalid, hinsert, rfl, hstore⟩

/-- A trial of a valid rule evaluates it, under the nil identifier if it has none, and so in every
world. -/
theorem of_testRule {m : RuleMessage} {sent : Rule} (hread : m.toRule = .ok sent)
    (hvalid : s.validator.check sent = .ok ()) {event : EventMessage} {trace : List Exchange}
    {a : Except Status ServiceResponse}
    (hrun : Reaches S hz (s.handle (.testRule (some m) (some event))) w trace (.done a) w') :
    ∃ reason, a = .ok (.trial ((s.engine.matchOf event.toValue
      { sent with id := some (sent.id.getD .nil) }).map RuleMatch.toMessage) reason) := by
  have htest : s.ruleToTest (some m) (some event) =
      .ok ({ sent with id := some (sent.id.getD .nil) }, event.toValue) := by
    rw [ruleToTest, requiredRule, hread]
    show (do s.validate sent; pure _) = _
    rw [validate, hvalid]
    rfl
  obtain ⟨trace₁, w₁, hcarry, -⟩ := of_handle hrun
  rw [carryOut, testRule, htest] at hcarry
  obtain ⟨_, _, _, _, -, hdone, -⟩ := Reaches.of_andThen_done hcarry
  obtain ⟨-, hanswer, -⟩ := Reaches.of_done hdone
  obtain ⟨reason, htold⟩ := trialOf_eq (s.engine.evaluateRule event.toValue
    { sent with id := some (sent.id.getD .nil) })
  cases hanswer
  exact ⟨reason, by rw [htold]; rfl⟩

/-! ## The trial and the event -/

theorem filter_told (id : Uuid) (ms : List RuleMatch) :
    (ms.map RuleMatch.toMessage).filter (fun m => m.ruleId = id.text) =
      (ms.filter fun m => m.ruleId = id).map RuleMatch.toMessage := by
  simp only [List.filter_map, Function.comp_def, RuleMatch.toMessage, Uuid.text_inj]

theorem filter_told_ne (id : Uuid) (ms : List RuleMatch) :
    (ms.map RuleMatch.toMessage).filter (fun m => m.ruleId ≠ id.text) =
      (ms.filter fun m => m.ruleId ≠ id).map RuleMatch.toMessage := by
  simp only [List.filter_map, Function.comp_def, RuleMatch.toMessage, ne_eq, Uuid.text_inj]

/-- **A trial foretells what an event will find.** Whatever was asked before, from an empty store
and an empty cache on: after a rule has been created that is not switched off, the matches under its
identifier are the one match of its trial, if that gives one, and the other matches are those
before, in the same order. -/
theorem trial_foretells (havail : S.Available) (hplace : S.InsertsInPlace)
    (hrepo : s.repository = some repo) (hcached : repo.cached = true) (hdelete : ¬ hz.fails .delete)
    {s₀ : σ} (hempty : S.rules s₀ = []) {requests : List ServiceRequest}
    (hrequests : ∀ q ∈ requests, q.Survives) {m : RuleMessage}
    (hm : (ServiceRequest.createRule (some m)).Survives) (henabled : m.enabled ≠ some false)
    {event : EventMessage} {w₀ w₁ w₂ w₃ : World σ}
    {trace trace₁ trace₂ trace₃ trace₄ : List Exchange}
    {answers : List (Except Status ServiceResponse)}
    {first second trial : Except Status ServiceResponse} {q : RuleMessage}
    (hbefore : Reaches S hz (s.handleAll requests) ⟨s₀, fun _ => none⟩ trace (.done answers) w₀)
    (hfirst : Reaches S hz (s.handle (.evaluateEvent (some event))) w₀ trace₁ (.done first) w₁)
    (hcreate : Reaches S hz (s.handle (.createRule (some m))) w₁ trace₂ (.done (.ok (.rule q))) w₂)
    (hsecond : Reaches S hz (s.handle (.evaluateEvent (some event))) w₂ trace₃ (.done second) w₃)
    (htrial : Reaches S hz (s.handle (.testRule (some m) (some event))) w trace₄ (.done trial) w') :
    ∃ before after found reason,
      first = .ok (.found before) ∧ second = .ok (.found after) ∧
      trial = .ok (.trial found reason) ∧
      after.filter (fun x => x.ruleId = q.id) =
        found.toList.map (fun x => { x with ruleId := q.id }) ∧
      after.filter (fun x => x.ruleId ≠ q.id) = before := by
  have hw₀ :=
    tidy_of_handleAll havail hrepo hcached hdelete hrequests hbefore (tidy_of_empty hempty)
  obtain ⟨rfl, hw₁, hstore₁⟩ := of_evaluateEvent havail hrepo hw₀ hfirst
  obtain ⟨sent, stored, hread, hvalid, hanswer, rfl, hstore⟩ :=
    of_createRule hrepo hcached hdelete hcreate
  have hw₂ := tidy_of_handle havail hrepo hcached hdelete hm hcreate hw₁
  obtain ⟨rfl, -, -⟩ := of_evaluateEvent havail hrepo hw₂ hsecond
  obtain ⟨reason, rfl⟩ := of_testRule hread hvalid htrial
  refine ⟨_, _, _, reason, rfl, rfl, rfl, ?_⟩
  -- The store put the rule among the others, with an identifier and instants of its own.
  obtain ⟨front, back, hfront, hback⟩ := hplace _ _ _ hanswer
  have hlawful := S.lawful (.insert { sent with id := none }) w₁.store
  rw [hanswer] at hlawful
  obtain ⟨⟨id, createdAt, updatedAt, -, hstored⟩, -⟩ := hlawful
  have hkept : WellKept (front ++ stored :: back) := hback ▸ S.wellKept _
  have hid : stored.id = some id := by rw [hstored]
  have hon : stored.enabled = true := by
    rw [hstored]
    show sent.enabled = true
    rw [RuleMessage.enabled_of_toRule hread]
    cases hsent : m.enabled with
    | none => rfl
    | some b =>
      cases b with
      | true => rfl
      | false => exact absurd hsent henabled
  have htold : stored.toMessage.id = id.text := by rw [Rule.toMessage, hid]; rfl
  obtain ⟨hnew, hothers⟩ := s.engine.evaluate_insert event.toValue hid hon hkept
  rw [matchesOn, matchesOn, hstore, hback, htold, filter_told, filter_told_ne, hnew, hothers,
    ← hstore₁, hfront]
  refine ⟨?_, rfl⟩
  -- The rule of the trial is the one in the store but for identifier and instants.
  have hsame : s.engine.matchOf event.toValue stored =
      (s.engine.matchOf event.toValue { sent with id := some (sent.id.getD .nil) }).map
        fun x => { x with ruleId := id } := by
    rw [hstored]
    exact s.engine.matchOf_stored event.toValue
      (r := { sent with id := some (sent.id.getD .nil) }) rfl createdAt updatedAt
  rw [hsame]
  cases s.engine.matchOf event.toValue { sent with id := some (sent.id.getD .nil) } <;> rfl

/-- A service with a cache, for examples. -/
def withCache : Service where
  repository := some { cached := true }

/-- An event that says nothing but its source, for examples. -/
def eventFrom (source : String) : EventMessage where
  id := ""
  eventType := ""
  timestamp := 0
  source := source
  value := .notANumber
  attributes := none

/-- A rule on the source of events, for examples. -/
def ruleOnSource (source : String) : Rule :=
  .ofCondition source (.comparison ⟨"source", .equal, .string source⟩)

/-- Its message. -/
def onSource (source : String) : RuleMessage := .plain source (ruleOnSource source).condition

theorem toRule_onSource (source : String) :
    (onSource source).toRule = .ok (ruleOnSource source) := by
  have hnest : (ruleOnSource source).condition.toDocument.nesting ≤ 127 :=
    Nat.le_of_ble_eq_true rfl
  exact RuleMessage.toRule_plain ⟨trivial, hnest⟩ trivial

theorem survives_onSource (source : String) :
    (ServiceRequest.createRule (some (onSource source))).Survives := by
  intro m r hm hread
  cases hm
  rw [toRule_onSource] at hread
  cases hread
  exact ⟨trivial, fun _ h => nomatch h⟩

theorem ruleToCreate_onSource : withCache.ruleToCreate (some (onSource "db")) =
    .ok (ruleOnSource "db") := by
  rw [ruleToCreate, requiredRule, toRule_onSource]
  rfl

/-- A trial on an event from the source of the rule finds a match. -/
theorem of_testRule_onSource {trace : List Exchange} {a : Except Status ServiceResponse}
    (hrun : Reaches S hz (withCache.handle
      (.testRule (some (onSource "db")) (some (eventFrom "db")))) w trace (.done a) w') :
    ∃ found reason, a = .ok (.trial (some found) reason) := by
  obtain ⟨reason, rfl⟩ := of_testRule (toRule_onSource "db") rfl hrun
  have hmatch : ∃ x, withCache.engine.matchOf (eventFrom "db").toValue
      { ruleOnSource "db" with id := some .nil } = some x := ⟨_, rfl⟩
  obtain ⟨x, hx⟩ := hmatch
  refine ⟨x.toMessage, reason, ?_⟩
  rw [show (ruleOnSource "db").id.getD .nil = .nil from rfl, hx]
  rfl

/-- A second rule on a source is created after a first one, and an event from it is evaluated before
and after that, while entries may vanish and only deletions are sure to succeed. The trial finds a
match. -/
theorem trial_foretells_second :
    ∃ (w₀ w₁ w₂ w₃ w₄ : World { m : Memory // m.InOrder })
        (trace₀ trace₁ trace₂ trace₃ trace₄ : List Exchange)
        (answers : List (Except Status ServiceResponse)) (before after : List MatchMessage)
        (q : RuleMessage) (found : MatchMessage) (reason : String),
      Reaches Memory.store .sparingDeletions
        (withCache.handleAll [.createRule (some (onSource "db"))])
          ⟨Memory.empty, fun _ => none⟩ trace₀
        (.done answers) w₀ ∧
      Reaches Memory.store .sparingDeletions
        (withCache.handle (.evaluateEvent (some (eventFrom "db"))))
        w₀ trace₁ (.done (.ok (.found before))) w₁ ∧
      Reaches Memory.store .sparingDeletions (withCache.handle (.createRule (some (onSource "db"))))
        w₁ trace₂ (.done (.ok (.rule q))) w₂ ∧
      Reaches Memory.store .sparingDeletions
        (withCache.handle (.evaluateEvent (some (eventFrom "db"))))
        w₂ trace₃ (.done (.ok (.found after))) w₃ ∧
      Reaches Memory.store .sparingDeletions
        (withCache.handle (.testRule (some (onSource "db")) (some (eventFrom "db")))) w₃ trace₄
        (.done (.ok (.trial (some found) reason))) w₄ ∧
      after.filter (fun x => x.ruleId = q.id) = [{ found with ruleId := q.id }] ∧
      after.filter (fun x => x.ruleId ≠ q.id) = before := by
  have hdelete : ¬ Hazards.sparingDeletions.fails .delete := fun h => h rfl
  have hrequests : ∀ q ∈ [ServiceRequest.createRule (some (onSource "db"))], q.Survives :=
    List.forall_mem_singleton.mpr (survives_onSource "db")
  -- Every request has a run to its end.
  obtain ⟨trace₀, a₀, w₀, h₀⟩ := Reaches.exists_run Memory.store .sparingDeletions
    (withCache.handle (.createRule (some (onSource "db")))) ⟨Memory.empty, fun _ => none⟩
  obtain ⟨trace₁, a₁, w₁, h₁⟩ := Reaches.exists_run Memory.store .sparingDeletions
    (withCache.handle (.evaluateEvent (some (eventFrom "db")))) w₀
  obtain ⟨trace₂, a₂, w₂, h₂⟩ := Reaches.exists_run Memory.store .sparingDeletions
    (withCache.handle (.createRule (some (onSource "db")))) w₁
  obtain ⟨trace₃, a₃, w₃, h₃⟩ := Reaches.exists_run Memory.store .sparingDeletions
    (withCache.handle (.evaluateEvent (some (eventFrom "db")))) w₂
  obtain ⟨trace₄, a₄, w₄, h₄⟩ := Reaches.exists_run Memory.store .sparingDeletions
    (withCache.handle (.testRule (some (onSource "db")) (some (eventFrom "db")))) w₃
  have hall : Reaches Memory.store .sparingDeletions
      (withCache.handleAll [.createRule (some (onSource "db"))])
        ⟨Memory.empty, fun _ => none⟩ trace₀
      (.done [a₀]) w₀ := h₀.andThen _
  -- The store has taken one rule before the second, and takes that, too.
  obtain ⟨-, hstore₀⟩ := of_createRule_inOrder rfl rfl hdelete ruleToCreate_onSource h₀
  have hw₀ := tidy_of_handle Memory.available_store rfl rfl hdelete (survives_onSource "db") h₀
    (tidy_of_empty rfl)
  obtain ⟨-, -, hstore₁⟩ := of_evaluateEvent Memory.available_store rfl hw₀ h₁
  obtain ⟨ha₂, -⟩ := of_createRule_inOrder rfl rfl hdelete ruleToCreate_onSource h₂
  have htaken : ∃ q, a₂ = .ok (.rule q) := by
    rw [ha₂, hstore₁, hstore₀]
    exact ⟨_, rfl⟩
  obtain ⟨q, rfl⟩ := htaken
  obtain ⟨before, after, found, reason, rfl, rfl, rfl, hnew, hothers⟩ :=
    trial_foretells Memory.available_store Memory.insertsInPlace_store rfl rfl hdelete rfl hrequests
      (survives_onSource "db") (fun h => nomatch h) hall h₁ h₂ h₃ h₄
  -- The event is from the source of the rule.
  obtain ⟨x, reason', htold⟩ := of_testRule_onSource h₄
  obtain rfl := (ServiceResponse.trial.inj (Except.ok.inj htold)).1
  exact ⟨w₀, w₁, w₂, w₃, w₄, trace₀, trace₁, trace₂, trace₃, trace₄, [a₀], before, after,
    q, _, reason, hall, h₁, h₂, h₃, h₄, hnew, hothers⟩

end Service

end AlertRules
