/-!
# Metrics

What the service notes about its work is a list of observations. Observations are counted in series:
a series has a name and labels, and is written as `name{label=value,...}`. The numbers of rules
evaluated are kept as they come.
-/

namespace AlertRules

/-- How a look into the cache came out. -/
inductive LookupOutcome
  | hit
  | miss
  | error
deriving DecidableEq

/-- The name of an outcome. -/
def LookupOutcome.name : LookupOutcome → String
  | hit => "hit"
  | miss => "miss"
  | error => "error"

/-- Something that is noted. -/
inductive Observation
  /-- A request was answered. -/
  | request (service method status : String)
  /-- An event was evaluated against some rules, of which some matched. -/
  | evaluation (rules matched : Nat)
  /-- A rule could not be evaluated. -/
  | skipped (reason : String)
  /-- The cache was asked for a key of some kind. -/
  | lookup (kind : String) (outcome : LookupOutcome)
deriving DecidableEq

namespace Observation

/-- The text of a series with labels. -/
def series (name : String) (labels : List (String × String)) : String :=
  match labels with
  | [] => name
  | _ => name ++ "\x7b" ++ ",".intercalate (labels.map fun (k, v) => k ++ "=" ++ v) ++ "\x7d"

/-- The series in which an observation counts once. Requests and evaluations are also timed. -/
def seriesOf : Observation → List String
  | request service method status =>
    let labels := [("service", service), ("method", method), ("status", status)]
    [series "grpc_requests_total" labels, series "grpc_request_duration_seconds" labels]
  | evaluation _ matched =>
    [series "rule_evaluations_total" [("matched", if matched = 0 then "false" else "true")],
      series "rule_evaluation_duration_seconds" []]
  | skipped reason => [series "rule_evaluations_skipped_total" [("reason", reason)]]
  | lookup kind outcome =>
    [series "rule_cache_lookups_total" [("key", kind), ("outcome", outcome.name)]]

/-- The number of rules evaluated, where some were. -/
def ruleCount? : Observation → Option Nat
  | evaluation rules _ => some rules
  | _ => none

end Observation

namespace Metrics

/-- The name of the series of the numbers of rules evaluated. -/
def ruleCountSeries : String := "rule_evaluation_rule_count"

/-- The series that occur, each with the number of its observations. -/
def counts (observed : List Observation) : List (String × Nat) :=
  let all := observed.flatMap Observation.seriesOf
  all.eraseDups.map fun s => (s, all.count s)

/-- The numbers of rules evaluated, in order. -/
def ruleCounts (observed : List Observation) : List Nat := observed.filterMap Observation.ruleCount?

end Metrics

end AlertRules
