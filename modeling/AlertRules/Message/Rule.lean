import AlertRules.Fault
import AlertRules.Rule.Codec
import AlertRules.Text.Blank

/-!
# Rule messages

Rules travel as messages in which the condition and the settings of actions are JSON texts.
`RuleMessage.toRule` reads a message and reports the first part that cannot be read: the condition,
then the actions, the identifier and the severity. `Rule.toMessage` writes one. Blank texts stand
for what was left out, and instants out of range for none.
-/

namespace AlertRules

open Json

/-- An instant in a message. -/
structure TimestampMessage where
  seconds : Int64
  nanos : Int32
deriving DecidableEq

/-- An action in a message. -/
structure ActionMessage where
  actionType : String
  config : String
deriving DecidableEq

/-- A rule in a message. -/
structure RuleMessage where
  id : String
  name : String
  description : String
  enabled : Option Bool
  priority : Option UInt32
  severity : Int32
  conditionJson : String
  actions : List ActionMessage
  createdAt : Option TimestampMessage
  updatedAt : Option TimestampMessage
deriving DecidableEq

/-- A match in a message. -/
structure MatchMessage where
  ruleId : String
  ruleName : String
  severity : Int32
  actions : List ActionMessage
deriving DecidableEq

/-- The instant of a message, if there is one. -/
def TimestampMessage.toTimestamp? (t : TimestampMessage) : Option Timestamp :=
  if t.nanos.toInt < 0 then none else Timestamp.ofParts? t.seconds.toInt t.nanos.toInt.toNat

/-- The message of an instant. -/
def Timestamp.toMessage (t : Timestamp) : TimestampMessage :=
  ⟨Int64.ofInt t.seconds, Int32.ofInt t.nanos⟩

/-- The number of a severity in a message. -/
def Severity.toMessage (v : Severity) : Int32 := Int32.ofInt v.number

/-- The severity of a message. -/
def Severity.ofMessage (n : Int32) : Except RuleFault Severity :=
  match Severity.ofNumber? n.toInt with
  | some v => .ok v
  | none => .error (.invalid "severity" ("未知的告警级别: " ++ toString n.toInt))

/-- The identifier a text at a path stands for; a blank text stands for none. -/
def Uuid.ofMessage (raw path : String) : Except RuleFault (Option Uuid) :=
  if Text.isBlank raw then .ok none
  else
    match Uuid.ofString? (Text.trim raw) with
    | some id => .ok (some id)
    | none => .error (.invalid path "无效的规则 ID: ")

/-- The condition a text stands for; a blank text stands for the empty condition. -/
def Condition.ofMessage (text : String) : Except RuleFault Condition :=
  if Text.isBlank text then .ok .empty
  else
    match Condition.read? text with
    | some c => .ok c
    | none => .error (.invalid "condition_json" "条件 JSON 无法解析: ")

/-- The settings a text at a path stands for; a blank text stands for none. -/
def Action.configOfMessage (path text : String) : Except RuleFault (List (String × Value)) :=
  if Text.isBlank text then .ok []
  else
    match Value.read? text with
    | some (.object fields) => .ok fields
    | some _ => .error (.invalid path "动作配置必须是 JSON 对象")
    | none => .error (.invalid path "动作配置无法解析: ")

/-- The action of the message at a path. -/
def Action.ofMessage (path : String) (m : ActionMessage) : Except RuleFault Action := do
  let kind ←
    match ActionKind.read m.actionType with
    | .ok kind => .ok kind
    | .error text => .error (.invalid (path ++ ".action_type") text)
  let config ← Action.configOfMessage (path ++ ".config") m.config
  return ⟨kind, config⟩

/-- The message of an action. -/
def Action.toMessage (a : Action) : ActionMessage := ⟨a.kind.name, (Value.object a.config).text⟩

/-- The actions of messages, of which the first has the given number. -/
def Action.listOfMessages (index : Nat) : List ActionMessage → Except RuleFault (List Action)
  | [] => .ok []
  | m :: rest => do
    let a ← Action.ofMessage ("actions[" ++ toString index ++ "]") m
    let others ← Action.listOfMessages (index + 1) rest
    return a :: others

/-- The rule of a message. -/
def RuleMessage.toRule (m : RuleMessage) : Except RuleFault Rule := do
  let condition ← Condition.ofMessage m.conditionJson
  let actions ← Action.listOfMessages 0 m.actions
  let id ← Uuid.ofMessage m.id "id"
  let severity ← Severity.ofMessage m.severity
  return {
    id
    name := m.name
    description := m.description
    enabled := m.enabled.getD true
    priority := m.priority.getD Rule.defaultPriority
    severity
    condition
    actions
    createdAt := m.createdAt.bind TimestampMessage.toTimestamp?
    updatedAt := m.updatedAt.bind TimestampMessage.toTimestamp? }

/-- The message of a rule. -/
def Rule.toMessage (r : Rule) : RuleMessage where
  id := (r.id.map Uuid.text).getD ""
  name := r.name
  description := r.description
  enabled := some r.enabled
  priority := some r.priority
  severity := r.severity.toMessage
  conditionJson := r.condition.text
  actions := r.actions.map Action.toMessage
  createdAt := r.createdAt.map Timestamp.toMessage
  updatedAt := r.updatedAt.map Timestamp.toMessage

/-- The message of a match. -/
def RuleMatch.toMessage (m : RuleMatch) : MatchMessage where
  ruleId := m.ruleId.text
  ruleName := m.ruleName
  severity := m.severity.toMessage
  actions := m.actions.map Action.toMessage

end AlertRules
