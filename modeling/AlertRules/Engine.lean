import AlertRules.Evaluation
import AlertRules.Fault
import AlertRules.Metrics
import AlertRules.Rule

/-!
# The engine

The engine evaluates rules against one event in ascending order of priority. A rule that cannot be
evaluated is skipped and keeps none of the others from being evaluated. `evaluate` gives the
matches; `observations` is what is noted when it does.
-/

namespace AlertRules

open Json

/-- How the evaluation of a rule came out. -/
inductive Outcome
  | matched (m : RuleMatch)
  | notMatched
  | skipped (f : RuleFault)
deriving DecidableEq

/-- The match, where there is one. -/
def Outcome.match? : Outcome → Option RuleMatch
  | matched m => some m
  | notMatched | skipped _ => none

/-- What is noted of an outcome: that a rule was skipped. -/
def Outcome.observations : Outcome → List Observation
  | skipped f => [.skipped f.reason]
  | matched _ | notMatched => []

/-- The evaluation of one rule. -/
structure RuleEvaluation where
  ruleId : Option Uuid
  ruleName : String
  priority : UInt32
  outcome : Outcome
deriving DecidableEq

/-- An engine that skips conditions beyond a depth. -/
structure Engine where
  maxDepth : Nat := Condition.maxDepth

namespace Engine

/-- Evaluates a rule, enabled or not. A rule that matches needs an identifier. -/
def evaluateRule (e : Engine) (event : Value) (r : Rule) : Outcome :=
  if e.maxDepth < r.condition.depth then .skipped (.tooDeep r.condition.depth e.maxDepth)
  else if r.condition.holds event then
    match r.id with
    | some id => .matched ⟨id, r.name, r.severity, r.actions⟩
    | none => .skipped .missingId
  else .notMatched

/-- Evaluates a rule if it is enabled. -/
def evaluateSingle (e : Engine) (event : Value) (r : Rule) : Option RuleMatch :=
  if r.enabled then (e.evaluateRule event r).match? else none

/-- Evaluates the enabled rules, in the order of their priorities. -/
def evaluateDetailed (e : Engine) (event : Value) (rules : List Rule) : List RuleEvaluation :=
  (Rule.sortByPriority (rules.filter (·.enabled))).map fun r =>
    ⟨r.id, r.name, r.priority, e.evaluateRule event r⟩

/-- The matches among some rules, in the order of their priorities. -/
def evaluate (e : Engine) (event : Value) (rules : List Rule) : List RuleMatch :=
  (e.evaluateDetailed event rules).filterMap (·.outcome.match?)

/-- What is noted when rules are evaluated. -/
def observations (e : Engine) (event : Value) (rules : List Rule) : List Observation :=
  let evaluations := e.evaluateDetailed event rules
  evaluations.flatMap (·.outcome.observations) ++
    [.evaluation evaluations.length (e.evaluate event rules).length]

end Engine

end AlertRules
