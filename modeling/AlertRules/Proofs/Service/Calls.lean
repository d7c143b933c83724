import Mathlib.Data.List.Basic
import AlertRules.Proofs.Repository.Lookups
import AlertRules.Proofs.Service.Errand

/-!
# Calls and what they note

What is noted on the way to an answer is known from the lookups that were made, from how the rules
that were evaluated came out, and from the request and its answer (`Call.notes`): a request that is
carried out notes its lookups as it makes them, and what else there is to note after them
(`NotesBesides`).

> `Service.noted_handleAll`: requests one after the other note what their calls do, whatever store
> and cache answer.
-/

namespace AlertRules

open Json

/-! ## Calls -/

/-- A request and its answer, with all that was asked on the way, and how the rules came out that
were evaluated. -/
structure Call where
  request : ServiceRequest
  trace : List Exchange
  outcomes : List Outcome
  answer : Except Status ServiceResponse

namespace Call

/-- Whether an event was evaluated, and the answer is good. -/
def isEvaluation (c : Call) : Bool :=
  match c.request, c.answer with
  | .evaluateEvent _, .ok _ => true
  | _, _ => false

/-- Whether the answer has a match in it. -/
def anyMatch (c : Call) : Bool :=
  match c.answer with
  | .ok (.found ms) => !ms.isEmpty
  | _ => false

/-- What is noted of the evaluation of an event, once. -/
def evaluationNotes (c : Call) : List Observation :=
  if c.isEvaluation then
    [.evaluation c.outcomes.length (c.outcomes.filterMap Outcome.match?).length]
  else []

/-- What is noted of the rules that were evaluated. -/
def outcomeNotes (c : Call) : List Observation := c.outcomes.flatMap Outcome.observations

/-- What is noted of a call. -/
def notes (c : Call) : List Observation :=
  lookupNotes c.trace ++ c.outcomeNotes ++ c.evaluationNotes ++
    [.request Service.name c.request.method (Service.statusName c.answer)]

end Call

namespace Service

variable {ω : Type} (s : Service) (answer : (r : Request) → ω → r.Answer × ω)

/-- How the rules come out that are evaluated for a request: the enabled rules on an event, if they
can be had, or the one rule that is tried. -/
def outcomes (b : ω) : ServiceRequest → List Outcome
  | .evaluateEvent event =>
    match requiredEvent event, (s.rulesInForce.run answer b).1 with
    | .ok x, .ok rules => (s.engine.evaluateDetailed x rules).map (·.outcome)
    | _, _ => []
  | .testRule rule event =>
    match s.ruleToTest rule event with
    | .ok (r, x) => [s.engine.evaluateRule x r]
    | .error _ => []
  | .createRule _ | .getRule _ | .updateRule _ | .deleteRule _ | .listEnabledRules | .healthCheck =>
    []

/-- The call of a request. -/
def call (b : ω) (q : ServiceRequest) : Call where
  request := q
  trace := (s.handle q).transcript answer b
  outcomes := s.outcomes answer b q
  answer := ((s.handle q).run answer b).1

/-- The calls of requests one after the other. -/
def calls : List ServiceRequest → ω → List Call
  | [], _ => []
  | q :: rest, b => s.call answer b q :: calls rest ((s.handle q).run answer b).2

/-! ## What a call notes -/

theorem noted_observeAll (os : List Observation) (b : ω) :
    noted ((Work.observeAll os).transcript answer b) = os ∧
      lookupNotes ((Work.observeAll os).transcript answer b) = [] := by
  induction os generalizing b with
  | nil => exact ⟨rfl, rfl⟩
  | cons o rest ih =>
    obtain ⟨hnoted, hlookups⟩ := ih (answer (.observe o) b).2
    exact ⟨congrArg (List.cons o) hnoted, hlookups⟩

theorem notesLookups_stored {α : Type} {work : Repository → Work (Except RuleFault α)}
    (h : ∀ repo, NotesLookups (work repo)) : NotesLookups (s.stored work) := by
  unfold stored
  split
  next => exact .done _
  next repo _ => exact (h repo).andThen fun _ => .done _

theorem notesLookups_accepted {α β : Type} {checked : Except Status α}
    {work : α → Work (Except Status β)} (h : ∀ a, NotesLookups (work a)) :
    NotesLookups (accepted checked work) := by
  cases checked with
  | ok a => exact h a
  | error status => exact .done _

theorem notesLookups_rulesInForce : NotesLookups s.rulesInForce := by
  unfold rulesInForce
  split
  next => exact .done _
  next => exact s.notesLookups_stored fun repo => repo.inherited_notesLookups.enabledRules

/-- A request is carried out, and then noted. -/
theorem transcript_handle (q : ServiceRequest) (b : ω) :
    ∃ x, (s.handle q).transcript answer b = (s.carryOut q).transcript answer b ++
      [⟨.observe (.request name q.method (statusName ((s.carryOut q).run answer b).1)), x⟩] :=
  ⟨_, Program.transcript_andThen answer (s.carryOut q) _ b⟩

theorem answer_call (q : ServiceRequest) (b : ω) :
    (s.call answer b q).answer = ((s.carryOut q).run answer b).1 := by
  show (Program.run answer (Program.andThen (s.carryOut q) _) b).1 = _
  rw [Program.run_andThen]
  rfl

/-- That a program notes, after its lookups, some other things. -/
def NotesBesides {α : Type} (answer : (r : Request) → ω → r.Answer × ω) (b : ω) (p : Work α)
    (os : List Observation) : Prop :=
  noted (p.transcript answer b) = lookupNotes (p.transcript answer b) ++ os

/-- **An event is not evaluated**, if it or the rules cannot be had; else the answer is the matches
of the rules, and the evaluation is noted. -/
theorem call_evaluateEvent (event : Option EventMessage) (b : ω) :
    (∃ status, (s.call answer b (.evaluateEvent event)).answer = .error status ∧
      (s.call answer b (.evaluateEvent event)).outcomes = [] ∧
      NotesBesides answer b (s.carryOut (.evaluateEvent event)) []) ∨
    ∃ x rules, (s.call answer b (.evaluateEvent event)).answer =
        .ok (.found ((s.engine.evaluate x rules).map RuleMatch.toMessage)) ∧
      (s.call answer b (.evaluateEvent event)).outcomes =
        (s.engine.evaluateDetailed x rules).map (·.outcome) ∧
      NotesBesides answer b (s.carryOut (.evaluateEvent event))
        (s.engine.observations x rules) := by
  rw [answer_call]
  show (∃ status, _ ∧ s.outcomes answer b (.evaluateEvent event) = [] ∧ _) ∨
    ∃ x rules, _ ∧ s.outcomes answer b (.evaluateEvent event) = _ ∧ _
  cases hevent : requiredEvent event with
  | error status =>
    have hcarry : s.carryOut (.evaluateEvent event) = .done (.error status) := by
      rw [carryOut, evaluateEvent, hevent]
      rfl
    rw [hcarry, outcomes, hevent]
    exact .inl ⟨status, rfl, rfl, rfl⟩
  | ok x =>
    have hcarry : s.carryOut (.evaluateEvent event) = s.rulesInForce.orFail fun rules =>
        (Work.observeAll (s.engine.observations x rules)).andThen fun _ =>
          .done (.ok (.found ((s.engine.evaluate x rules).map RuleMatch.toMessage))) := by
      rw [carryOut, evaluateEvent, hevent]
      rfl
    unfold NotesBesides
    rw [hcarry, outcomes, hevent, Program.orFail, Program.run_andThen, Program.transcript_andThen,
      noted_append, lookupNotes_append, s.notesLookups_rulesInForce]
    cases hrules : (s.rulesInForce.run answer b).1 with
    | error status => exact .inl ⟨status, rfl, rfl, (List.append_nil _).symm⟩
    | ok rules =>
      obtain ⟨hnoted, hlookups⟩ := noted_observeAll answer (s.engine.observations x rules)
        (s.rulesInForce.run answer b).2
      refine .inr ⟨x, rules, ?_, rfl, ?_⟩
      · simp only [Program.run_andThen, Program.run]
      · simp only [Program.transcript_andThen, Program.transcript, List.append_nil,
          hnoted, hlookups]

/-- Trying a rule notes how it came out. -/
theorem call_testRule (rule : Option RuleMessage) (event : Option EventMessage) (b : ω) :
    NotesBesides answer b (s.carryOut (.testRule rule event))
      (s.call answer b (.testRule rule event)).outcomeNotes := by
  show NotesBesides answer b _
      ((s.outcomes answer b (.testRule rule event)).flatMap Outcome.observations)
  cases htest : s.ruleToTest rule event with
  | error status =>
    have hcarry : s.carryOut (.testRule rule event) = .done (.error status) := by
      rw [carryOut, testRule, htest]
      rfl
    rw [hcarry, outcomes, htest]
    rfl
  | ok found =>
    have hcarry : s.carryOut (.testRule rule event) =
        (Work.observeAll (s.engine.evaluateRule found.2 found.1).observations).andThen fun _ =>
          .done (.ok (trialOf (s.engine.evaluateRule found.2 found.1))) := by
      rw [carryOut, testRule, htest]
      rfl
    obtain ⟨hnoted, hlookups⟩ :=
      noted_observeAll answer (s.engine.evaluateRule found.2 found.1).observations b
    unfold NotesBesides
    rw [hcarry, outcomes, htest, Program.transcript_andThen, noted_append, lookupNotes_append,
      hnoted, hlookups]
    exact (List.append_nil _).trans (List.append_nil _).symm

/-- What is noted when rules are evaluated is known from how they come out. -/
theorem observations_eq (e : Engine) (x : Value) (rules : List Rule) :
    e.observations x rules =
      ((e.evaluateDetailed x rules).map (·.outcome)).flatMap Outcome.observations ++
        [.evaluation ((e.evaluateDetailed x rules).map (·.outcome)).length
          (((e.evaluateDetailed x rules).map (·.outcome)).filterMap Outcome.match?).length] := by
  rw [List.flatMap_map, List.length_map, List.filterMap_map]
  rfl

/-- **What carrying out a request notes** besides its lookups. -/
theorem notes_carryOut (q : ServiceRequest) (b : ω) :
    NotesBesides answer b (s.carryOut q)
      ((s.call answer b q).outcomeNotes ++ (s.call answer b q).evaluationNotes) := by
  -- A request for which no rules are evaluated notes its lookups only.
  have hlookups : ∀ {q}, NotesLookups (s.carryOut q) → NotesBesides answer b (s.carryOut q) [] := by
    intro q h
    exact (h ω answer b).trans (List.append_nil _).symm
  cases q with
  | createRule m =>
    exact hlookups <| notesLookups_accepted fun r =>
      (s.notesLookups_stored fun repo => repo.inherited_notesLookups.create r).orFail fun _ =>
        .done _
  | getRule raw =>
    refine hlookups <| notesLookups_accepted fun id =>
      (s.notesLookups_stored fun repo => repo.inherited_notesLookups.byId id).orFail fun found => ?_
    cases found <;> exact .done _
  | updateRule m =>
    refine hlookups <| notesLookups_accepted fun (id, r) =>
      (s.notesLookups_stored fun repo => repo.inherited_notesLookups.update r).orFail fun updated =>
        ?_
    cases updated <;> exact .done _
  | deleteRule raw =>
    exact hlookups <| notesLookups_accepted fun id =>
      (s.notesLookups_stored fun repo => repo.inherited_notesLookups.delete id).orFail fun _ =>
        .done _
  | listEnabledRules =>
    exact hlookups <|
      (s.notesLookups_stored fun repo => repo.inherited_notesLookups.enabledRules).orFail fun _ =>
        .done _
  | healthCheck =>
    have hhealthy : NotesLookups s.storeIsHealthy := by
      unfold storeIsHealthy
      split
      · exact (NotesLookups.askStore _).andThen fun _ => .done _
      · exact .done _
    exact hlookups <| hhealthy.andThen fun _ => .done _
  | testRule rule event =>
    have hnone : (s.call answer b (.testRule rule event)).evaluationNotes = [] := rfl
    rw [hnone, List.append_nil]
    exact s.call_testRule answer rule event b
  | evaluateEvent event =>
    rw [Call.outcomeNotes, Call.evaluationNotes, Call.isEvaluation]
    obtain ⟨status, hanswer, houtcomes, hnotes⟩ | ⟨x, rules, hanswer, houtcomes, hnotes⟩ :=
      s.call_evaluateEvent answer event b
    · rw [hanswer, houtcomes]
      exact hnotes
    · rw [hanswer, houtcomes]
      rw [observations_eq] at hnotes
      exact hnotes

/-- **What a call notes.** -/
theorem noted_call (q : ServiceRequest) (b : ω) :
    noted (s.call answer b q).trace = (s.call answer b q).notes := by
  obtain ⟨x, htrace⟩ := s.transcript_handle answer q b
  have hcarried := s.notes_carryOut answer q b
  rw [Call.notes, s.answer_call answer q b]
  show noted ((s.handle q).transcript answer b) =
    lookupNotes ((s.handle q).transcript answer b) ++ _ ++ _ ++ _
  rw [htrace, noted_append, lookupNotes_append, hcarried]
  simp only [List.append_assoc]
  rfl

/-- Of an event that was evaluated there is a match in the answer if one was counted. -/
theorem anyMatch_call {q : ServiceRequest} {b : ω} (h : (s.call answer b q).isEvaluation = true) :
    (s.call answer b q).anyMatch =
      (((s.call answer b q).outcomes.filterMap Outcome.match?).length != 0) := by
  obtain ⟨event, rfl⟩ : ∃ event, q = .evaluateEvent event := by
    cases q with
    | evaluateEvent event => exact ⟨event, rfl⟩
    | _ => exact nomatch h
  obtain ⟨status, hanswer, -⟩ | ⟨x, rules, hanswer, houtcomes, -⟩ :=
    s.call_evaluateEvent answer event b
  · rw [Call.isEvaluation, hanswer] at h
    exact nomatch h
  · rw [Call.anyMatch, hanswer, houtcomes, List.filterMap_map]
    show (!((s.engine.evaluate x rules).map _).isEmpty) = ((s.engine.evaluate x rules).length != 0)
    cases s.engine.evaluate x rules <;> rfl

/-! ## Requests one after the other -/

theorem transcript_handleAll (requests : List ServiceRequest) (b : ω) :
    (s.handleAll requests).transcript answer b = (s.calls answer requests b).flatMap (·.trace) := by
  induction requests generalizing b with
  | nil => rfl
  | cons q rest ih =>
    rw [handleAll, Program.transcript_andThen, Program.transcript_andThen, ih]
    exact congrArg _ (List.append_nil _)

theorem run_handleAll (requests : List ServiceRequest) (b : ω) :
    ((s.handleAll requests).run answer b).1 = (s.calls answer requests b).map (·.answer) := by
  induction requests generalizing b with
  | nil => rfl
  | cons q rest ih =>
    rw [handleAll, Program.run_andThen, Program.run_andThen, Program.run, ih]
    rfl

theorem request_calls (requests : List ServiceRequest) (b : ω) :
    (s.calls answer requests b).map (·.request) = requests := by
  induction requests generalizing b with
  | nil => rfl
  | cons q rest ih => exact congrArg (List.cons q) (ih _)

/-- Each of the calls is that of a request in some state. -/
theorem of_mem_calls {requests : List ServiceRequest} {b : ω} {c : Call}
    (h : c ∈ s.calls answer requests b) : ∃ b' q, c = s.call answer b' q := by
  induction requests generalizing b with
  | nil => exact nomatch h
  | cons q rest ih =>
    obtain rfl | hrest := List.mem_cons.mp h
    · exact ⟨b, q, rfl⟩
    · exact ih hrest

/-- **What requests note** is what their calls do. -/
theorem noted_handleAll (requests : List ServiceRequest) (b : ω) :
    noted ((s.handleAll requests).transcript answer b) =
      (s.calls answer requests b).flatMap Call.notes := by
  rw [transcript_handleAll, noted, List.filterMap_flatMap]
  refine List.flatMap_congr fun c hc => ?_
  obtain ⟨b', q, rfl⟩ := s.of_mem_calls answer hc
  exact s.noted_call answer q b'

end Service

end AlertRules
