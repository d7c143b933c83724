import AlertRules.Database
import AlertRules.Rule.Codec
import AlertRules.Store

/-!
# The table of rules

The database keeps each rule in a row of one table. Condition and actions are JSON columns; the
priority is a signed integer of 32 bits, so that not every priority can be stored.
`RuleTable.answer` says by which statements the calls on the store of rules are carried out.

A row that is no rule is corrupt. Asked for alone it makes the call fail; in a list it is passed
over, so that it keeps none of the other rules from being found.
-/

namespace AlertRules

open Json

/-- A row of the table, with its JSON columns read. -/
structure RuleRow where
  id : Uuid
  name : String
  description : String
  enabled : Bool
  priority : Int
  severity : String
  condition : Value
  actions : Value
  createdAt : Timestamp
  updatedAt : Timestamp
deriving DecidableEq

namespace RuleRow

/-- Reads a row whose cells are those of the columns of the table. -/
def ofCells? : Row → Option RuleRow
  | [.uuid id, .text name, .text description, .bool enabled, .int priority, .text severity,
      .json condition, .json actions, .instant createdAt, .instant updatedAt] => do
    let condition ← Value.read? condition
    let actions ← Value.read? actions
    return ⟨id, name, description, enabled, priority, severity, condition, actions, createdAt,
      updatedAt⟩
  | _ => none

/-- The priority of a row, which must not be negative. -/
def readPriority (priority : Int) : Except String UInt32 :=
  if 0 ≤ priority then .ok (UInt32.ofNat priority.toNat)
  else .error ("negative priority " ++ toString priority)

/-- The condition of a row. -/
def readCondition (v : Value) : Except String Condition :=
  match Document.decodeValue? Condition.ofDocument? v with
  | some c => .ok c
  | none => .error "condition: not a condition"

/-- The actions of a row. -/
def readActions (v : Value) : Except String (List Action) :=
  match Document.decodeValue? (Document.list? Action.ofDocument?) v with
  | some actions => .ok actions
  | none => .error "actions: not a list of actions"

/-- The rule of a row, or what is wrong with it. -/
def read (row : RuleRow) : Except String Rule := do
  let priority ← readPriority row.priority
  let severity ← Severity.read row.severity
  let condition ← readCondition row.condition
  let actions ← readActions row.actions
  return ⟨some row.id, row.name, row.description, row.enabled, priority, severity,
    condition, actions, some row.createdAt, some row.updatedAt⟩

/-- The rule of a row. -/
def toRule (row : RuleRow) : Except RuleFault Rule :=
  row.read.mapError (.corruptRow row.id.text)

end RuleRow

namespace RuleTable

/-- The columns, in the order of the cells of a row. -/
def columns : String :=
  "id, name, description, enabled, priority, severity, condition, actions, created_at, updated_at"

/-- The order of lists: that of priorities first. -/
def listOrder : String := "ORDER BY priority ASC, created_at ASC, id ASC"

/-- The priority as the table holds it, where it can. -/
def priorityCell (r : Rule) : Except RuleFault Cell :=
  if r.priority.toNat < 0x80000000 then .ok (.int r.priority.toNat)
  else .error (.invalid "priority" ("优先级超出范围: " ++ toString r.priority.toNat))

/-- The cells of a rule that its author gives: all but the identifier and the two instants. -/
def authoredCells (r : Rule) : Except RuleFault (List Cell) := do
  let priority ← priorityCell r
  return [.text r.name, .text r.description, .bool r.enabled, priority, .text r.severity.name,
    .json r.condition.toDocument.text, .json (Document.ofList Action.toDocument r.actions).text]

/-- Asks for a statement on the table. -/
def query (sql : String) (parameters : List Cell) : Session (Except RuleFault Reply) := do
  return (← Session.query sql parameters).mapError RuleFault.ofBackend

/-- The row of cells, where what the database sent can be read. -/
def readRow (cells : Row) : Except RuleFault RuleRow :=
  match RuleRow.ofCells? cells with
  | some row => .ok row
  | none => .error (.database "unreadable row")

/-- The rules of a list of rows, without those that are corrupt. -/
def readRules (rows : List Row) : Except RuleFault (List Rule) := do
  return (← rows.mapM readRow).filterMap fun row => row.toRule.toOption

/-- The rule of the first row, if there is any. -/
def readRule? (rows : List Row) : Except RuleFault (Option Rule) :=
  match rows with
  | [] => .ok none
  | cells :: _ => do return some (← (← readRow cells).toRule)

/-- The rule of the first row, which must be there. -/
def readRule (rows : List Row) : Except RuleFault Rule := do
  match ← readRule? rows with
  | some r => return r
  | none => .error (.database "no row")

/-- The enabled rules. -/
def fetchEnabled : Session (Except RuleFault (List Rule)) :=
  (query ("SELECT " ++ columns ++ " FROM rules WHERE enabled = TRUE " ++ listOrder) []).orFail
    fun reply => return readRules reply.rows

/-- The rule with an identifier. -/
def fetchById (id : Uuid) : Session (Except RuleFault (Option Rule)) :=
  (query ("SELECT " ++ columns ++ " FROM rules WHERE id = $1") [.uuid id]).orFail
    fun reply => return readRule? reply.rows

/-- The rules with any of the identifiers; without one nothing is asked. -/
def fetchByIds (ids : List Uuid) : Session (Except RuleFault (List Rule)) :=
  if ids.isEmpty then return .ok []
  else
    (query ("SELECT " ++ columns ++ " FROM rules WHERE id = ANY($1) " ++ listOrder)
      [.uuids ids]).orFail fun reply => return readRules reply.rows

/-- Adds a rule. The database gives it an identifier and its instants. -/
def insert (r : Rule) : Session (Except RuleFault Rule) :=
  match authoredCells r with
  | .error f => return .error f
  | .ok cells =>
    (query ("INSERT INTO rules (name, description, enabled, priority, severity, condition, " ++
      "actions) VALUES ($1, $2, $3, $4, $5, $6, $7) RETURNING " ++ columns) cells).orFail
      fun reply => return readRule reply.rows

/-- Puts a rule in place of the one with its identifier; without an identifier nothing is asked. -/
def update (r : Rule) : Session (Except RuleFault (Option Rule)) :=
  match r.id with
  | none => return .ok none
  | some id =>
    match authoredCells r with
    | .error f => return .error f
    | .ok cells =>
      (query ("UPDATE rules SET name = $2, description = $3, enabled = $4, priority = $5, " ++
        "severity = $6, condition = $7, actions = $8, updated_at = NOW() WHERE id = $1 " ++
        "RETURNING " ++ columns) (.uuid id :: cells)).orFail
        fun reply => return readRule? reply.rows

/-- Takes out the rule with an identifier. -/
def remove (id : Uuid) : Session (Except RuleFault Bool) :=
  (query "DELETE FROM rules WHERE id = $1 RETURNING id" [.uuid id]).orFail fun reply =>
    match reply.rows with
    | [] => return .ok false
    | (.uuid _ :: _) :: _ => return .ok true
    | _ => return .error (.database "unreadable row")

/-- Carries out a call on the store of rules. -/
def answer : (c : StoreCall) → Session (Except RuleFault c.Answer)
  | .fetchEnabled => fetchEnabled
  | .fetchById id => fetchById id
  | .fetchByIds ids => fetchByIds ids
  | .insert r => insert r
  | .update r => update r
  | .remove id => remove id
  | .ping => do return (← Session.probe).mapError RuleFault.ofBackend

end RuleTable

end AlertRules
