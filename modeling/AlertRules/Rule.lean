import AlertRules.Action
import AlertRules.Condition
import AlertRules.Severity
import AlertRules.Timestamp
import AlertRules.Uuid

/-!
# Rules

A rule says on which events to act, how grave a match is and what to do then. Rules are tried in
ascending order of priority. A store gives a rule its identifier and its two instants.
-/

namespace AlertRules

open Json

/-- A rule. -/
structure Rule where
  id : Option Uuid
  name : String
  description : String
  enabled : Bool
  priority : UInt32
  severity : Severity
  condition : Condition
  actions : List Action
  createdAt : Option Timestamp
  updatedAt : Option Timestamp
deriving DecidableEq

namespace Rule

/-- The priority of a rule that does not say otherwise. -/
def defaultPriority : UInt32 := 100

/-- An enabled rule of no particular gravity that does nothing, not yet stored. -/
def ofCondition (name : String) (condition : Condition) : Rule where
  id := none
  name := name
  description := ""
  enabled := true
  priority := defaultPriority
  severity := .info
  condition := condition
  actions := []
  createdAt := none
  updatedAt := none

/-- The rule with one more action. -/
def addAction (r : Rule) (a : Action) : Rule := { r with actions := r.actions ++ [a] }

/-- The rules in ascending order of priority; rules of one priority keep their order. -/
def sortByPriority (rules : List Rule) : List Rule :=
  rules.mergeSort fun a b => a.priority ≤ b.priority

end Rule

/-- What is reported when a rule matches an event. -/
structure RuleMatch where
  ruleId : Uuid
  ruleName : String
  severity : Severity
  actions : List Action
deriving DecidableEq

end AlertRules
