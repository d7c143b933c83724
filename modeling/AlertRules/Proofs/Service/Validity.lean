import AlertRules.Proofs.Repository.Approval
import AlertRules.Proofs.Repository.Noting
import AlertRules.Proofs.Service.Trial

/-!
# Valid rules are never skipped

The engine skips a rule that is too deep, and one that matches but has no identifier. An approved
rule is neither, if the engine goes as deep as the checks let rules be, as it does unless they are
set apart (`Validator.Approves.ne_skipped`). Every rule that the service evaluates is approved: one
that is tried is checked before and gets the nil identifier if it has none, and all others come from
a store and a cache which have had only what requests put there. For these it takes the terms of
`Terms.approved`, on which requests are `Proper`.

> `Service.never_skipped`: no trial skips its rule, and whatever requests are made from an empty
> store and an empty cache on, and whatever may go wrong with the cache, only approved rules are in
> both, and none is skipped.
-/

namespace AlertRules

open Json

/-! ## What the engine skips -/

/-- That something noted is not that a rule was skipped. -/
def Observation.Unskipped (o : Observation) : Prop := ∀ reason, o ≠ .skipped reason

variable {v : Validator} {e : Engine}

theorem Validator.depth_le_of_check {r : Rule} (h : v.check r = .ok ()) :
    r.condition.depth ≤ v.maxDepth := by
  unfold check at h
  split at h
  · exact nomatch h
  · split at h
    · exact nomatch h
    next hdepth => exact Nat.le_of_not_lt hdepth

/-- An approved rule is never skipped, if the engine goes as deep as the checks let rules be. -/
theorem Validator.Approves.ne_skipped (hdepth : v.maxDepth ≤ e.maxDepth) {r : Rule}
    (h : v.Approves r) (event : Value) (f : RuleFault) : e.evaluateRule event r ≠ .skipped f := by
  obtain ⟨id, hid⟩ := Option.isSome_iff_exists.mp h.numbered
  have hle : r.condition.depth ≤ e.maxDepth :=
    Nat.le_trans (Validator.depth_le_of_check h.valid) hdepth
  rw [Engine.evaluateRule, if_neg (Nat.not_lt.mpr hle), hid]
  split
  · exact Outcome.noConfusion
  · exact Outcome.noConfusion

theorem Outcome.mem_observations_iff {x : Outcome} {o : Observation} :
    o ∈ x.observations ↔ ∃ f, x = .skipped f ∧ o = .skipped f.reason := by
  cases x <;> simp [observations]

/-- That a rule was skipped is noted for each one that was, and not otherwise. -/
theorem Engine.skipped_mem_observations_iff {event : Value} {rules : List Rule} {reason : String} :
    .skipped reason ∈ e.observations event rules ↔
      ∃ r ∈ rules, r.enabled = true ∧ ∃ f, e.evaluateRule event r = .skipped f ∧
        reason = f.reason := by
  simp [observations, evaluateDetailed, Rule.sortByPriority, Outcome.mem_observations_iff,
    and_assoc]

theorem Engine.unskipped_of_approves (hdepth : v.maxDepth ≤ e.maxDepth) {event : Value}
    {rules : List Rule} (h : ∀ r ∈ rules, v.Approves r) :
    ∀ o ∈ e.observations event rules, o.Unskipped := by
  rintro o ho reason rfl
  obtain ⟨r, hr, -, f, hskipped, -⟩ := skipped_mem_observations_iff.mp ho
  exact (h r hr).ne_skipped hdepth event f hskipped

namespace Service

variable {s : Service}

/-! ## Requests -/

/-- The rule of a request to try one is approved. -/
theorem approves_of_ruleToTest {rule : Option RuleMessage} {event : Option EventMessage} {r : Rule}
    {x : Value} (h : s.ruleToTest rule event = .ok (r, x)) : s.validator.Approves r := by
  obtain ⟨-, sent, -, -, rfl, -, hvalid⟩ := of_ruleToTest h
  exact ⟨hvalid, rfl⟩

/-- What is done with an answer of approved rules skips none. -/
theorem notes_conclude (hdepth : s.validator.maxDepth ≤ s.engine.maxDepth) {q : ServiceRequest}
    {e : Errand} (h : s.errand? q = some e) {x : Except RuleFault e.Answer}
    (hx : Repository.OnlyApproved s.validator (e.reply x)) :
    Notes Observation.Unskipped (e.conclude x) := by
  cases x with
  | error f => trivial
  | ok a =>
    cases q with
    | evaluateEvent event =>
      obtain ⟨value, -, rfl⟩ := Option.map_eq_some_iff.mp h
      exact Notes.andThen (Notes.observeAll (Engine.unskipped_of_approves hdepth hx)) fun _ =>
        trivial
    | createRule m =>
      obtain ⟨r, -, rfl⟩ := Option.map_eq_some_iff.mp h
      trivial
    | getRule raw =>
      obtain ⟨id, -, rfl⟩ := Option.map_eq_some_iff.mp h
      cases a <;> trivial
    | updateRule m =>
      obtain ⟨⟨id, r⟩, -, rfl⟩ := Option.map_eq_some_iff.mp h
      cases a <;> trivial
    | deleteRule raw =>
      obtain ⟨id, -, rfl⟩ := Option.map_eq_some_iff.mp h
      trivial
    | listEnabledRules =>
      cases h
      trivial
    | testRule m event => exact nomatch h
    | healthCheck => exact nomatch h

/-- A request without an errand skips no rule: the one it may evaluate is approved. -/
theorem Alone.notes (hdepth : s.validator.maxDepth ≤ s.engine.maxDepth)
    {p : Work (Except Status ServiceResponse)} (h : s.Alone p) : Notes Observation.Unskipped p := by
  cases h with
  | answered a => trivial
  | asked tell => exact (Notes.askStore .ping).andThen fun _ => trivial
  | evaluated event a =>
    have hnone : ∀ o ∈ s.engine.observations event [], o.Unskipped :=
      Engine.unskipped_of_approves hdepth fun _ hr => nomatch hr
    exact (Notes.observeAll hnone).andThen fun _ => trivial
  | @tried rule event r x htest a =>
    refine (Notes.observeAll fun o ho => ?_).andThen fun _ => trivial
    obtain ⟨f, hskipped, -⟩ := Outcome.mem_observations_iff.mp ho
    exact absurd hskipped ((approves_of_ruleToTest htest).ne_skipped hdepth x f)

/-- How a request was answered may be noted. -/
theorem notes_answer (q : ServiceRequest) (answer : Except Status ServiceResponse) :
    Notes Observation.Unskipped
      ((Work.observe (.request name q.method (statusName answer))).andThen fun _ => .done answer) :=
  (Notes.observe fun _ => Observation.noConfusion).andThen fun _ => trivial

/-- **One request** keeps to the terms, and notes of no rule that it was skipped. -/
theorem proper_handle (hdepth : s.validator.maxDepth ≤ s.engine.maxDepth) (q : ServiceRequest) :
    Proper (.approved s.validator) Observation.Unskipped (fun _ => True) (s.handle q) := by
  have hcarry : Proper (.approved s.validator) Observation.Unskipped (fun _ => True)
      (s.carryOut q) := by
    have halone : s.repository = none ∨ s.errand? q = none →
        Proper (.approved s.validator) Observation.Unskipped (fun _ => True) (s.carryOut q) :=
      fun h => .of_sound ((idle_carryOut h).sound trivial) ((alone_carryOut h).notes hdepth)
    cases hrepo : s.repository with
    | none => exact halone (.inl hrepo)
    | some repo =>
      cases herrand : s.errand? q with
      | none => exact halone (.inr herrand)
      | some e =>
        have hsound := repo.sound_perform_approved ((sent_of_errand herrand).mono fun _ h => h.1)
        have hnotes := repo.notes_perform (P := Observation.Unskipped)
          (fun _ _ _ => Observation.noConfusion) e.operation
        rw [e.perform_eq] at hsound hnotes
        rw [carryOut_eq hrepo herrand]
        refine (Proper.of_sound hsound.of_passedOn hnotes.of_passedOn).andThen fun x hx => ?_
        exact .of_sound ((e.idle_conclude x).sound trivial) (notes_conclude hdepth herrand hx)
  exact hcarry.andThen fun answer _ =>
    .of_sound (Idle.sound trivial ⟨rfl, fun _ => trivial⟩) (notes_answer q answer)

/-- **Any requests** do so, one after the other. -/
theorem proper_handleAll (hdepth : s.validator.maxDepth ≤ s.engine.maxDepth) :
    ∀ requests, Proper (.approved s.validator) Observation.Unskipped (fun _ => True)
      (s.handleAll requests)
  | [] => trivial
  | q :: rest => (proper_handle hdepth q).andThen fun _ _ =>
    (proper_handleAll hdepth rest).andThen fun _ _ => trivial

/-! ## Runs -/

variable {σ : Type} {S : RuleStore σ} {hz : Hazards} {w w' : World σ}

/-- A trial that is answered has evaluated a rule that is approved. -/
theorem of_testRule_answered {rule : Option RuleMessage} {event : Option EventMessage}
    {trace : List Exchange} {a : ServiceResponse}
    (hrun : Reaches S hz (s.handle (.testRule rule event)) w trace (.done (.ok a)) w') :
    ∃ r x, s.validator.Approves r ∧ a = trialOf (s.engine.evaluateRule x r) := by
  obtain ⟨trace₁, w₁, hcarry, -⟩ := of_handle hrun
  rw [carryOut, testRule] at hcarry
  cases htest : s.ruleToTest rule event with
  | error status =>
    rw [htest] at hcarry
    obtain ⟨-, hdone, -⟩ := Reaches.of_done hcarry
    cases hdone
  | ok found =>
    rw [htest] at hcarry
    obtain ⟨_, _, _, _, -, hdone, -⟩ := Reaches.of_andThen_done hcarry
    obtain ⟨-, hanswer, -⟩ := Reaches.of_done hdone
    cases hanswer
    exact ⟨found.1, found.2, approves_of_ruleToTest htest, rfl⟩

/-- **Valid rules are never skipped.** In whatever state store and cache are, a trial that is
answered gives no reason for skipping its rule, because it has not been. And after any requests, or
any part of them, from an empty store and an empty cache on, all rules in the store and all that are
read from the cache are approved, and none has been skipped, whatever may go wrong with the cache.
That one was skipped would have been noted (`Engine.skipped_mem_observations_iff`). -/
theorem never_skipped (hdepth : s.validator.maxDepth ≤ s.engine.maxDepth) :
    (∀ {rule : Option RuleMessage} {event : Option EventMessage} {w w' : World σ}
        {trace : List Exchange} {a : ServiceResponse},
      Reaches S hz (s.handle (.testRule rule event)) w trace (.done (.ok a)) w' →
        (∃ found, a = .trial found "") ∧ ∀ x ∈ trace, ∀ reason, x.1 ≠ .observe (.skipped reason)) ∧
    ∀ {s₀ : σ}, S.rules s₀ = [] → ∀ {requests : List ServiceRequest} {trace : List Exchange}
        {p : Work (List (Except Status ServiceResponse))} {w : World σ},
      Reaches S hz (s.handleAll requests) ⟨s₀, fun _ => none⟩ trace p w →
        (∀ r ∈ S.rules w.store, s.validator.Approves r) ∧
        (∀ key text r, w.entries key = some text → Rule.read? text = some r →
          s.validator.Approves r) ∧
        ∀ x ∈ trace, ∀ reason, x.1 ≠ .observe (.skipped reason) := by
  constructor
  · intro rule event w w' trace a hrun
    constructor
    · obtain ⟨r, x, hr, rfl⟩ := of_testRule_answered hrun
      cases houtcome : s.engine.evaluateRule x r with
      | matched m => exact ⟨_, rfl⟩
      | notMatched => exact ⟨_, rfl⟩
      | skipped f => exact absurd houtcome (hr.ne_skipped hdepth x f)
    · have hnotes : Notes Observation.Unskipped (s.handle (.testRule rule event)) :=
        ((alone_carryOut (.inr rfl)).notes hdepth).andThen (notes_answer _)
      exact fun x hx reason heq => hnotes.reaches hrun x hx _ heq reason rfl
  · intro s₀ hempty requests trace p w hrun
    have hvalid : ∀ r ∈ S.rules s₀, s.validator.check r = .ok () := by
      rw [hempty]
      exact fun _ hr => nomatch hr
    obtain ⟨hholds, -, hstore, htrace⟩ := (proper_handleAll hdepth requests).reaches
      (K := fun st => ∀ r ∈ S.rules st, s.validator.check r = .ok ())
      S.approved hrun (fun _ _ h => nomatch h) hvalid
    refine ⟨fun r hr => ⟨hstore r hr, (S.wellKept w.store).numbered r hr⟩, ?_, ?_⟩
    · exact fun key text r htext => hholds key text htext r
    · exact fun x hx reason heq => htrace x hx _ heq reason rfl

/-- A rule on the source of events is created and evaluated on one of them, then tried on it: it is
in the store, and neither has skipped it. -/
theorem never_skipped_single :
    ∃ (w w' : World { m : Memory // m.InOrder }) (trace trace' : List Exchange)
        (answers : List (Except Status ServiceResponse)) (r : Rule) (found : MatchMessage),
      Reaches Memory.store .sparingDeletions
        (withCache.handleAll
          [.createRule (some (onSource "db")), .evaluateEvent (some (eventFrom "db"))])
        ⟨Memory.empty, fun _ => none⟩ trace (.done answers) w ∧
      r ∈ Memory.store.rules w.store ∧ withCache.validator.Approves r ∧
      (∀ x ∈ trace, ∀ reason, x.1 ≠ .observe (.skipped reason)) ∧
      Reaches Memory.store .sparingDeletions
        (withCache.handle (.testRule (some (onSource "db")) (some (eventFrom "db")))) w trace'
        (.done (.ok (.trial (some found) ""))) w' := by
  have hdelete : ¬ Hazards.sparingDeletions.fails .delete := fun h => h rfl
  have hdepth : withCache.validator.maxDepth ≤ withCache.engine.maxDepth :=
    Nat.le_refl Condition.maxDepth
  obtain ⟨trace₀, a₀, w₀, h₀⟩ := Reaches.exists_run Memory.store .sparingDeletions
    (withCache.handle (.createRule (some (onSource "db")))) ⟨Memory.empty, fun _ => none⟩
  obtain ⟨trace₁, a₁, w₁, h₁⟩ := Reaches.exists_run Memory.store .sparingDeletions
    (withCache.handle (.evaluateEvent (some (eventFrom "db")))) w₀
  obtain ⟨trace₂, a₂, w₂, h₂⟩ := Reaches.exists_run Memory.store .sparingDeletions
    (withCache.handle (.testRule (some (onSource "db")) (some (eventFrom "db")))) w₁
  have hall : Reaches Memory.store .sparingDeletions (withCache.handleAll
      [.createRule (some (onSource "db")), .evaluateEvent (some (eventFrom "db"))])
      ⟨Memory.empty, fun _ => none⟩ (trace₀ ++ trace₁) (.done [a₀, a₁]) w₁ := by
    rw [handleAll, handleAll, handleAll]
    exact (h₀.andThen _).trans ((h₁.andThen _).andThen _)
  -- The rule is in the store after it has been created, and evaluating an event leaves it there.
  obtain ⟨-, hstore₀⟩ := of_createRule_inOrder rfl rfl hdelete ruleToCreate_onSource h₀
  have hw₀ := tidy_of_handle Memory.available_store rfl rfl hdelete (survives_onSource "db") h₀
    (tidy_of_empty rfl)
  obtain ⟨-, -, hstore₁⟩ := of_evaluateEvent Memory.available_store rfl hw₀ h₁
  have hinsert : ∃ r : Rule,
      (Memory.store.answer (.insert (ruleOnSource "db")) Memory.empty).1 = .ok r := ⟨_, rfl⟩
  obtain ⟨r, hinsert⟩ := hinsert
  obtain ⟨front, back, -, hback⟩ := Memory.insertsInPlace_store _ _ _ hinsert
  have hr : r ∈ Memory.store.rules w₁.store := by
    rw [hstore₁, hstore₀, hback]
    exact List.mem_append_right _ (List.mem_cons_self ..)
  obtain ⟨happroved, -, hunskipped⟩ := (never_skipped (S := Memory.store) hdepth).2 rfl hall
  obtain ⟨found, reason, rfl⟩ := of_testRule_onSource h₂
  obtain ⟨⟨_, hfound⟩, -⟩ := (never_skipped hdepth).1 h₂
  obtain rfl := (ServiceResponse.trial.inj hfound).2
  exact ⟨w₁, w₂, trace₀ ++ trace₁, trace₂, [a₀, a₁], r, found, hall, hr, happroved r hr,
    hunskipped, h₂⟩

end Service

end AlertRules
