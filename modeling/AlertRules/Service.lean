import AlertRules.Engine
import AlertRules.Message.Event
import AlertRules.Message.Rule
import AlertRules.Repository
import AlertRules.Validation

/-!
# The service of rules

The service answers requests: it evaluates events against the enabled rules, manages rules, and
tries a rule on an event without storing it. A request is checked in full before store or cache are
asked for anything. Without a store, evaluation finds no rules and management is not available.
Every answer, good or bad, is noted once.
-/

namespace AlertRules

open Json

/-- A request. Messages may be missing from it. -/
inductive ServiceRequest
  | evaluateEvent (event : Option EventMessage)
  | createRule (rule : Option RuleMessage)
  | getRule (id : String)
  | updateRule (rule : Option RuleMessage)
  | deleteRule (id : String)
  | listEnabledRules
  | testRule (rule : Option RuleMessage) (event : Option EventMessage)
  | healthCheck

/-- The name of the method a request calls. -/
def ServiceRequest.method : ServiceRequest → String
  | evaluateEvent _ => "EvaluateEvent"
  | createRule _ => "CreateRule"
  | getRule _ => "GetRule"
  | updateRule _ => "UpdateRule"
  | deleteRule _ => "DeleteRule"
  | listEnabledRules => "ListEnabledRules"
  | testRule _ _ => "TestRule"
  | healthCheck => "HealthCheck"

/-- The answer to a request that did not fail. -/
inductive ServiceResponse
  | found (ms : List MatchMessage)
  | rule (r : RuleMessage)
  | rules (rs : List RuleMessage)
  | deleted (any : Bool)
  | trial (found : Option MatchMessage) (skippedReason : String)
  | health (healthy : Bool)
deriving DecidableEq

/-- A service: with a store or without, and whether its health is that of the store. -/
structure Service where
  repository : Option Repository
  probesStore : Bool := false
  engine : Engine := {}
  validator : Validator := {}

namespace Service

/-- The name under which requests to the service are counted. -/
def name : String := "RulesService"

/-- A refusal of what was sent. -/
def refusal (message : String) : Status := ⟨.invalidArgument, message⟩

/-- That there is no rule with an identifier. -/
def noSuchRule (id : Uuid) : Status := ⟨.notFound, "规则不存在: " ++ id.text⟩

/-- The rule of a message, which must be there. -/
def requiredRule (m : Option RuleMessage) : Except Status Rule :=
  match m with
  | none => .error (refusal "规则不能为空")
  | some m => m.toRule.mapError RuleFault.toStatus

/-- The event of a message, which must be there. -/
def requiredEvent (m : Option EventMessage) : Except Status Value :=
  match m with
  | none => .error (refusal "事件不能为空")
  | some m => .ok m.toValue

/-- The identifier in a request, which must be there. -/
def requiredId (raw : String) : Except Status Uuid :=
  match Uuid.ofMessage raw "rule_id" with
  | .error f => .error f.toStatus
  | .ok none => .error (refusal "规则 ID 不能为空")
  | .ok (some id) => .ok id

variable (s : Service)

/-- Checks a rule. -/
def validate (r : Rule) : Except Status Unit := (s.validator.check r).mapError RuleFault.toStatus

/-- The rule of a request to create one: valid, and without an identifier. -/
def ruleToCreate (m : Option RuleMessage) : Except Status Rule := do
  let r ← requiredRule m
  let r := { r with id := none }
  s.validate r
  return r

/-- The rule of a request to update one: valid, and with an identifier. -/
def ruleToUpdate (m : Option RuleMessage) : Except Status (Uuid × Rule) := do
  let r ← requiredRule m
  match r.id with
  | none => .error (refusal "规则 ID 不能为空")
  | some id =>
    s.validate r
    return (id, r)

/-- The rule and the event of a request to try a rule. A rule that is not stored is tried under the
nil identifier. -/
def ruleToTest (rule : Option RuleMessage) (event : Option EventMessage) :
    Except Status (Rule × Value) := do
  let r ← requiredRule rule
  let e ← requiredEvent event
  s.validate r
  return ({ r with id := some (r.id.getD .nil) }, e)

/-- Does something with what a request holds, if the request is in order. -/
def accepted {α β : Type} (checked : Except Status α) (work : α → Work (Except Status β)) :
    Work (Except Status β) :=
  match checked with
  | .ok a => work a
  | .error status => return .error status

/-- Does something with the repository, if there is one. -/
def stored {α : Type} (work : Repository → Work (Except RuleFault α)) : Work (Except Status α) :=
  match s.repository with
  | none => return .error RuleFault.storeUnavailable.toStatus
  | some repo => do return (← work repo).mapError RuleFault.toStatus

/-- The rules that events are evaluated against. -/
def rulesInForce : Work (Except Status (List Rule)) :=
  match s.repository with
  | none => return .ok []
  | some _ => s.stored (·.enabledRules)

/-- Evaluates an event against the enabled rules. -/
def evaluateEvent (event : Option EventMessage) : Work (Except Status ServiceResponse) :=
  accepted (requiredEvent event) fun e =>
    Program.orFail s.rulesInForce fun rules => do
      Work.observeAll (s.engine.observations e rules)
      return .ok (.found ((s.engine.evaluate e rules).map RuleMatch.toMessage))

/-- Stores a new rule. -/
def createRule (m : Option RuleMessage) : Work (Except Status ServiceResponse) :=
  accepted (s.ruleToCreate m) fun r =>
    Program.orFail (s.stored (·.create r)) fun created => return .ok (.rule created.toMessage)

/-- Finds a rule. -/
def getRule (raw : String) : Work (Except Status ServiceResponse) :=
  accepted (requiredId raw) fun id =>
    Program.orFail (s.stored (·.byId id)) fun found =>
      match found with
      | some r => return .ok (.rule r.toMessage)
      | none => return .error (noSuchRule id)

/-- Changes a rule. -/
def updateRule (m : Option RuleMessage) : Work (Except Status ServiceResponse) :=
  accepted (s.ruleToUpdate m) fun (id, r) =>
    Program.orFail (s.stored (·.update r)) fun updated =>
      match updated with
      | some r => return .ok (.rule r.toMessage)
      | none => return .error (noSuchRule id)

/-- Takes out a rule. -/
def deleteRule (raw : String) : Work (Except Status ServiceResponse) :=
  accepted (requiredId raw) fun id =>
    Program.orFail (s.stored (·.delete id)) fun deleted => return .ok (.deleted deleted)

/-- Lists the enabled rules. -/
def listEnabledRules : Work (Except Status ServiceResponse) :=
  Program.orFail (s.stored (·.enabledRules)) fun rules =>
    return .ok (.rules (rules.map Rule.toMessage))

/-- What is told of the outcome of a trial. -/
def trialOf : Outcome → ServiceResponse
  | .matched m => .trial (some m.toMessage) ""
  | .notMatched => .trial none ""
  | .skipped f => .trial none f.message

/-- Tries a rule on an event. -/
def testRule (rule : Option RuleMessage) (event : Option EventMessage) :
    Work (Except Status ServiceResponse) :=
  accepted (s.ruleToTest rule event) fun (r, e) => do
    let outcome := s.engine.evaluateRule e r
    Work.observeAll outcome.observations
    return .ok (trialOf outcome)

/-- Whether the store is healthy: it is unless it is asked and fails. -/
def storeIsHealthy : Work Bool := do
  if s.probesStore then return (← Work.askStore .ping).toBool
  else return true

/-- Tells whether the service is healthy, which is whether its store is. -/
def healthCheck : Work (Except Status ServiceResponse) := do
  return .ok (.health (← s.storeIsHealthy))

/-- Carries out a request. -/
def carryOut : ServiceRequest → Work (Except Status ServiceResponse)
  | .evaluateEvent event => s.evaluateEvent event
  | .createRule rule => s.createRule rule
  | .getRule id => s.getRule id
  | .updateRule rule => s.updateRule rule
  | .deleteRule id => s.deleteRule id
  | .listEnabledRules => s.listEnabledRules
  | .testRule rule event => s.testRule rule event
  | .healthCheck => s.healthCheck

/-- The word under which an answer is counted. -/
def statusName : Except Status ServiceResponse → String
  | .ok _ => "OK"
  | .error status => status.code.name

/-- Answers a request, and notes how. -/
def handle (request : ServiceRequest) : Work (Except Status ServiceResponse) := do
  let answer ← s.carryOut request
  Work.observe (.request name request.method (statusName answer))
  return answer

end Service

end AlertRules
