import Mathlib.Data.List.Basic
import AlertRules.Metrics

/-!
# Counters

What is observed is counted under the texts of series, and a label may have any text for its value.
Still, the text of a series tells its labels apart (`Observation.series_eq_iff`) as long as no comma
stands in the values that occur, for of two ways to put a text together from as many parts with
commas between them one puts commas into the parts only if the other does.

> `Metrics.counter_request`, `counter_evaluation`, `counter_skipped`, `counter_lookup`: of
> observations without such labels, a counter has counted those that it is the counter of, each
> once.
-/

namespace AlertRules

/-! ## Parts with a separator between them -/

section Parts

variable {α : Type} {x : α}

theorem append_cons_inj {a b c d : List α} (ha : x ∉ a) (hc : x ∉ c)
    (h : a ++ x :: b = c ++ x :: d) : a = c ∧ b = d := by
  obtain ⟨e, hce, hrest⟩ | ⟨e, hae, hrest⟩ := List.append_eq_append_iff.mp h
  · cases e with
    | nil =>
      rw [List.append_nil] at hce
      exact ⟨hce.symm, (List.cons.inj hrest).2⟩
    | cons y e =>
      obtain ⟨rfl, -⟩ := List.cons.inj hrest
      rw [hce] at hc
      exact absurd (List.mem_append_right a List.mem_cons_self) hc
  · cases e with
    | nil =>
      rw [List.append_nil] at hae
      exact ⟨hae, (List.cons.inj hrest).2.symm⟩
    | cons y e =>
      obtain ⟨rfl, -⟩ := List.cons.inj hrest
      rw [hae] at ha
      exact absurd (List.mem_append_right c List.mem_cons_self) ha

/-- Parts without the separator in them are the only ones, of as many or more, that come to their
text. -/
theorem intercalate_inj : ∀ {qs ps : List (List α)} {q : List α}, (∀ q' ∈ q :: qs, x ∉ q') →
    qs.length < ps.length → [x].intercalate ps = [x].intercalate (q :: qs) → ps = q :: qs
  | _, [], _, _, hlength, _ => nomatch hlength
  | [], [p], q, _, _, h => by simpa using h
  | [], p :: p' :: ps, q, hq, _, h => by
    rw [List.intercalate_cons_cons, List.intercalate_singleton, List.append_assoc] at h
    refine absurd ?_ (hq q List.mem_cons_self)
    rw [← h]
    exact List.mem_append_right p List.mem_cons_self
  | q' :: qs, [p], q, _, hlength, _ => absurd hlength (by simp)
  | q' :: qs, p :: p' :: ps, q, hq, hlength, h => by
    rw [List.intercalate_cons_cons, List.intercalate_cons_cons, List.append_assoc,
      List.append_assoc] at h
    rw [List.forall_mem_cons] at hq
    have hlength' : qs.length < (p' :: ps).length := Nat.lt_of_succ_lt_succ hlength
    obtain ⟨e, hqe, hrest⟩ | ⟨e, hpe, hrest⟩ := List.append_eq_append_iff.mp h
    · cases e with
      | nil =>
        rw [List.append_nil] at hqe
        rw [hqe, intercalate_inj hq.2 hlength' (List.cons.inj hrest).2]
      | cons y e =>
        obtain ⟨rfl, -⟩ := List.cons.inj hrest
        rw [hqe] at hq
        exact absurd (List.mem_append_right p List.mem_cons_self) hq.1
    · cases e with
      | nil =>
        rw [List.append_nil] at hpe
        rw [hpe, intercalate_inj hq.2 hlength' (List.cons.inj hrest).2.symm]
      | cons y e =>
        -- Else there would be a part too many after the first separator.
        obtain ⟨rfl, htail⟩ := List.cons.inj hrest
        have hjoined : [x].intercalate (e :: p' :: ps) = [x].intercalate (q' :: qs) := by
          rw [List.intercalate_cons_cons, List.append_assoc]
          exact htail.symm
        have hmore : e :: p' :: ps = q' :: qs :=
          intercalate_inj hq.2 (Nat.lt_succ_of_lt hlength') hjoined
        have heq := congrArg List.length hmore
        simp only [List.length_cons] at heq hlength
        omega

/-- What is counted alike list by list is counted alike in all of them. -/
theorem countP_flatMap_congr {β γ : Type} {l : List α} {f : α → List β} {g : α → List γ}
    {p : β → Bool} {q : γ → Bool} (h : ∀ a ∈ l, (f a).countP p = (g a).countP q) :
    (l.flatMap f).countP p = (l.flatMap g).countP q := by
  rw [List.countP_flatMap, List.countP_flatMap]
  exact congrArg List.sum (List.map_congr_left h)

/-- Of lists that each have one such item or none, those are counted that have one. -/
theorem countP_flatMap_eq {β : Type} {l : List α} {f : α → List β} {p : β → Bool} {q : α → Bool}
    (h : ∀ a ∈ l, (f a).countP p = if q a then 1 else 0) : (l.flatMap f).countP p = l.countP q := by
  have hone : ∀ a ∈ l, (f a).countP p = [a].countP q :=
    fun a ha => (h a ha).trans List.countP_singleton.symm
  rw [countP_flatMap_congr hone, List.flatMap_singleton']

end Parts

theorem LookupOutcome.name_inj {a b : LookupOutcome} : a.name = b.name ↔ a = b := by
  cases a <;> cases b <;> decide

namespace Observation

/-! ## The texts of series -/

/-- A label as it stands in the text of a series. -/
def labelText (label : String × String) : List Char := (label.1 ++ "=" ++ label.2).toList

theorem toList_series (name : String) (label : String × String) (rest : List (String × String)) :
    (series name (label :: rest)).toList =
      name.toList ++ '\x7b' :: ([','].intercalate ((label :: rest).map labelText) ++ ['\x7d']) := by
  rw [series]
  · simp only [String.toList_append, String.toList_intercalate, List.map_map, List.append_assoc]
    rfl
  · exact nofun

/-- A series with labels has a bracket in its text. -/
theorem bracket_mem_series (name : String) (label : String × String)
    (rest : List (String × String)) : '\x7b' ∈ (series name (label :: rest)).toList := by
  rw [toList_series]
  exact List.mem_append_right _ List.mem_cons_self

/-- Labels of the same names come to the same texts only if they are the same. -/
theorem labelText_inj : ∀ {labels labels' : List (String × String)},
    labels.map (·.1) = labels'.map (·.1) → labels.map labelText = labels'.map labelText →
    labels = labels'
  | [], [], _, _ => rfl
  | [], _ :: _, hkeys, _ => nomatch hkeys
  | _ :: _, [], hkeys, _ => nomatch hkeys
  | (k, v) :: labels, (k', v') :: labels', hkeys, h => by
    simp only [List.map_cons, List.cons.injEq] at hkeys h
    obtain ⟨rfl, hkeys⟩ := hkeys
    obtain ⟨hlabel, h⟩ := h
    have hv : v = v' := String.toList_inj.mp (by simpa [labelText] using hlabel)
    rw [hv, labelText_inj hkeys h]

/-- A text that has no comma in it. -/
def Plain (t : String) : Prop := ',' ∉ t.toList

instance (t : String) : Decidable (Plain t) := inferInstanceAs (Decidable (',' ∉ t.toList))

/-- **Series are told apart** by their names and labels, if no comma stands in the labels of one of
them and the labels of series of a name have the same names. -/
theorem series_eq_iff {name name' : String} {labels labels' : List (String × String)}
    (hname : '\x7b' ∉ name.toList) (hname' : '\x7b' ∉ name'.toList)
    (hkeys : name = name' → labels.map (·.1) = labels'.map (·.1))
    (hplain : ∀ l ∈ labels', Plain l.1 ∧ Plain l.2) :
    series name labels = series name' labels' ↔ name = name' ∧ labels = labels' := by
  refine ⟨fun h => ?_, fun ⟨hn, hl⟩ => by rw [hn, hl]⟩
  cases labels with
  | nil =>
    cases labels' with
    | nil => exact ⟨h, rfl⟩
    | cons l' rest' =>
      rw [show name = _ from h] at hname
      exact absurd (bracket_mem_series name' l' rest') hname
  | cons l rest =>
    cases labels' with
    | nil =>
      rw [show name' = _ from h.symm] at hname'
      exact absurd (bracket_mem_series name l rest) hname'
    | cons l' rest' =>
      have htexts := congrArg String.toList h
      rw [toList_series, toList_series] at htexts
      obtain ⟨hnames, hlabels⟩ := append_cons_inj hname hname' htexts
      have hsame := hkeys (String.toList_inj.mp hnames)
      have hlength : rest'.length = rest.length := by simpa using (congrArg List.length hsame).symm
      have hparts : ∀ t ∈ labelText l' :: rest'.map labelText, ',' ∉ t := by
        intro t ht
        obtain ⟨label, hlabel, rfl⟩ :=
          List.mem_map.mp (show t ∈ (l' :: rest').map labelText from ht)
        obtain ⟨hk, hv⟩ := hplain label hlabel
        simp only [labelText, String.toList_append, List.mem_append, not_or]
        exact ⟨⟨hk, by decide⟩, hv⟩
      have hjoined := List.append_cancel_right hlabels
      have hall := intercalate_inj hparts (by simp [hlength]) hjoined
      exact ⟨String.toList_inj.mp hnames, labelText_inj hsame hall⟩

/-! ## Series of observations -/

/-- The names and the labels of the series in which an observation counts. -/
def parts : Observation → List (String × List (String × String))
  | request service method status =>
    let labels := [("service", service), ("method", method), ("status", status)]
    [("grpc_requests_total", labels), ("grpc_request_duration_seconds", labels)]
  | evaluation _ matched =>
    [("rule_evaluations_total", [("matched", if matched = 0 then "false" else "true")]),
      ("rule_evaluation_duration_seconds", [])]
  | skipped reason => [("rule_evaluations_skipped_total", [("reason", reason)])]
  | lookup kind outcome =>
    [("rule_cache_lookups_total", [("key", kind), ("outcome", outcome.name)])]

theorem seriesOf_eq (o : Observation) : o.seriesOf = o.parts.map fun p => series p.1 p.2 := by
  cases o <;> rfl

/-- That no comma stands in the labels of an observation. -/
def Clear (o : Observation) : Prop := ∀ p ∈ o.parts, ∀ l ∈ p.2, Plain l.1 ∧ Plain l.2

theorem clear_request {service method status : String} (hservice : Plain service)
    (hmethod : Plain method) (hstatus : Plain status) : (request service method status).Clear := by
  have hlabels : ∀ l ∈ [("service", service), ("method", method), ("status", status)],
      Plain l.1 ∧ Plain l.2 := by
    simp only [List.forall_mem_cons]
    exact ⟨⟨by decide, hservice⟩, ⟨by decide, hmethod⟩, ⟨by decide, hstatus⟩, nofun⟩
  exact List.forall_mem_cons.mpr ⟨hlabels, List.forall_mem_singleton.mpr hlabels⟩

theorem clear_evaluation (rules matched : Nat) : (evaluation rules matched).Clear := by
  have hflag : Plain (if matched = 0 then "false" else "true") := by
    split <;> decide
  refine List.forall_mem_cons.mpr
    ⟨List.forall_mem_singleton.mpr ⟨(by decide : Plain "matched"), hflag⟩, ?_⟩
  exact List.forall_mem_singleton.mpr nofun

theorem clear_skipped {reason : String} (h : Plain reason) : (skipped reason).Clear :=
  List.forall_mem_singleton.mpr (List.forall_mem_singleton.mpr ⟨(by decide : Plain "reason"), h⟩)

theorem clear_lookup {kind : String} (h : Plain kind) (outcome : LookupOutcome) :
    (lookup kind outcome).Clear := by
  have houtcome : Plain outcome.name := by
    cases outcome <;> decide
  refine List.forall_mem_singleton.mpr
    (List.forall_mem_cons.mpr ⟨⟨(by decide : Plain "key"), h⟩, ?_⟩)
  exact List.forall_mem_singleton.mpr ⟨(by decide : Plain "outcome"), houtcome⟩

/-- No bracket stands in the names of series. -/
theorem bracket_notMem_name {o : Observation} {p : String × List (String × String)}
    (h : p ∈ o.parts) : '\x7b' ∉ p.1.toList := by
  have hnames : ∀ name ∈ o.parts.map (·.1), '\x7b' ∉ name.toList := by
    cases o with
    | request service method status =>
      show ∀ name ∈ ["grpc_requests_total", "grpc_request_duration_seconds"], '\x7b' ∉ name.toList
      decide
    | evaluation rules matched =>
      show ∀ name ∈ ["rule_evaluations_total", "rule_evaluation_duration_seconds"],
        '\x7b' ∉ name.toList
      decide
    | skipped reason =>
      show ∀ name ∈ ["rule_evaluations_skipped_total"], '\x7b' ∉ name.toList
      decide
    | lookup kind outcome =>
      show ∀ name ∈ ["rule_cache_lookups_total"], '\x7b' ∉ name.toList
      decide
  exact hnames p.1 (List.mem_map_of_mem h)

/-- A clear observation counts in a series as often as it has the labels of that. -/
theorem count_seriesOf {o : Observation} (ho : o.Clear) {name : String}
    {labels : List (String × String)} (hname : '\x7b' ∉ name.toList)
    (hkeys : ∀ p ∈ o.parts, name = p.1 → labels.map (·.1) = p.2.map (·.1)) :
    o.seriesOf.count (series name labels) = o.parts.count (name, labels) := by
  rw [seriesOf_eq, List.count, List.count, List.countP_map]
  refine List.countP_congr fun p hp => ?_
  have hsame := series_eq_iff hname (bracket_notMem_name hp) (hkeys p hp) (ho p hp)
  rw [Function.comp_apply, beq_iff_eq, beq_iff_eq, eq_comm, hsame, eq_comm, Prod.ext_iff]
  exact and_congr_right fun _ => eq_comm

end Observation

namespace Metrics

/-! ## What counters have counted -/

/-- The number that stands in a series. -/
def counter (observed : List Observation) (series : String) : Nat :=
  ((counts observed).lookup series).getD 0

theorem lookup_map_self {β : Type} (f : String → β) (s : String) (l : List String) :
    (l.map fun t => (t, f t)).lookup s = if s ∈ l then some (f s) else none := by
  induction l with
  | nil => rfl
  | cons t rest ih =>
    rw [List.map_cons, List.lookup_cons, ih]
    by_cases h : s = t
    · simp [h]
    · simp [h, beq_eq_false_iff_ne.mpr h]

theorem counter_eq (observed : List Observation) (s : String) :
    counter observed s = (observed.flatMap Observation.seriesOf).count s := by
  unfold counter counts
  rw [lookup_map_self]
  by_cases h : s ∈ observed.flatMap Observation.seriesOf
  · rw [if_pos (List.mem_eraseDups.mpr h)]
    rfl
  · rw [if_neg fun hmem => h (List.mem_eraseDups.mp hmem), List.count_eq_zero_of_not_mem h]
    rfl

/-- A counter has counted the observations that count in its series once. -/
theorem counter_eq_countP {observed : List Observation} {s : String} {p : Observation → Bool}
    (h : ∀ o ∈ observed, o.seriesOf.count s = if p o then 1 else 0) :
    counter observed s = observed.countP p := by
  rw [counter_eq, List.count, countP_flatMap_eq h]

/-- The series of the requests to a method that were answered with a status. -/
def requestSeries (service method status : String) : String :=
  Observation.series "grpc_requests_total"
    [("service", service), ("method", method), ("status", status)]

/-- The series of the evaluations of events, of those with a match or of those without. -/
def evaluationSeries (anyMatch : Bool) : String :=
  Observation.series "rule_evaluations_total" [("matched", if anyMatch then "true" else "false")]

/-- The series of the rules that were skipped for a reason. -/
def skippedSeries (reason : String) : String :=
  Observation.series "rule_evaluations_skipped_total" [("reason", reason)]

/-- The series of the lookups of a kind that came out in a way. -/
def lookupSeries (kind : String) (outcome : LookupOutcome) : String :=
  Observation.series "rule_cache_lookups_total" [("key", kind), ("outcome", outcome.name)]

variable {observed : List Observation} (h : ∀ o ∈ observed, o.Clear)

include h

theorem counter_request (service method status : String) :
    counter observed (requestSeries service method status) =
      observed.count (.request service method status) := by
  refine counter_eq_countP fun o ho => ?_
  rw [requestSeries, Observation.count_seriesOf (h o ho) (by decide)]
  · cases o <;> simp [Observation.parts, List.count_cons]
  · cases o <;> simp [Observation.parts]

theorem counter_evaluation (anyMatch : Bool) :
    counter observed (evaluationSeries anyMatch) = observed.countP fun
      | .evaluation _ matched => anyMatch == (matched != 0)
      | _ => false := by
  refine counter_eq_countP fun o ho => ?_
  rw [evaluationSeries, Observation.count_seriesOf (h o ho) (by decide)]
  · cases o with
    | evaluation rules matched =>
      cases anyMatch <;> by_cases hnone : matched = 0 <;> simp [Observation.parts, hnone]
    | _ => simp [Observation.parts]
  · cases o <;> simp [Observation.parts]

theorem counter_skipped (reason : String) :
    counter observed (skippedSeries reason) = observed.count (.skipped reason) := by
  refine counter_eq_countP fun o ho => ?_
  rw [skippedSeries, Observation.count_seriesOf (h o ho) (by decide)]
  · cases o <;> simp [Observation.parts, List.count_cons]
  · cases o <;> simp [Observation.parts]

theorem counter_lookup (kind : String) (outcome : LookupOutcome) :
    counter observed (lookupSeries kind outcome) = observed.count (.lookup kind outcome) := by
  refine counter_eq_countP fun o ho => ?_
  rw [lookupSeries, Observation.count_seriesOf (h o ho) (by decide)]
  · cases o <;> simp [Observation.parts, List.count_cons, LookupOutcome.name_inj]
  · cases o <;> simp [Observation.parts]

end Metrics

end AlertRules
