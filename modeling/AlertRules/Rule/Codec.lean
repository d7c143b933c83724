import AlertRules.Condition.Codec
import AlertRules.Rule
import AlertRules.Timestamp.Reading

/-!
# Rules in JSON

A rule is a record. Only name and condition must be there. Written rules show every field, with null
for what the store has not given yet.
-/

namespace AlertRules

open Json

/-- The document of a severity. -/
def Severity.toDocument (v : Severity) : Document := .ofString v.name

/-- Reads a severity. -/
def Severity.ofDocument? (limit : Nat) (d : Document) : Option Severity := do
  Severity.ofName? (← d.choice? limit)

/-- Reads an identifier. -/
def Uuid.ofDocument? (d : Document) : Option Uuid := do
  Uuid.ofString? (← d.asString?)

/-- The document of an identifier. -/
def Uuid.toDocument (u : Uuid) : Document := .ofString u.text

/-- Reads an instant. -/
def Timestamp.ofDocument? (d : Document) : Option Timestamp := do
  Timestamp.ofString? (← d.asString?)

/-- The document of an instant. -/
def Timestamp.toDocument (t : Timestamp) : Document := .ofString t.text

namespace Rule

/-- The names of the fields, in the order in which they are written. -/
def fieldNames : List String :=
  ["id", "name", "description", "enabled", "priority", "severity", "condition", "actions",
    "created_at", "updated_at"]

/-- The document of a rule. -/
def toDocument (r : Rule) : Document :=
  .record [
    ("id", .ofOption Uuid.toDocument r.id),
    ("name", .ofString r.name),
    ("description", .ofString r.description),
    ("enabled", .bool r.enabled),
    ("priority", .ofNat r.priority.toNat),
    ("severity", r.severity.toDocument),
    ("condition", r.condition.toDocument),
    ("actions", .ofList Action.toDocument r.actions),
    ("created_at", .ofOption Timestamp.toDocument r.createdAt),
    ("updated_at", .ofOption Timestamp.toDocument r.updatedAt)]

/-- Reads a priority. -/
def priority? (d : Document) : Option UInt32 :=
  (d.asNatBelow? UInt32.size).map UInt32.ofNat

/-- Reads a rule in which arrays and objects nest at most `limit` deep. -/
def ofDocument? (limit : Nat) (d : Document) : Option Rule := do
  match ← d.fields? fieldNames limit with
  | (inner, [id, name, description, enabled, priority, severity, condition, actions, createdAt,
      updatedAt]) =>
    let id ← Document.optional Uuid.ofDocument? id
    let name ← Document.required Document.asString? name
    let description ← Document.withDefault "" Document.asString? description
    let enabled ← Document.withDefault true Document.asBool? enabled
    let priority ← Document.withDefault defaultPriority priority? priority
    let severity ← Document.withDefault .info (Severity.ofDocument? inner) severity
    let condition ← Document.required (Condition.ofDocument? inner) condition
    let actions ← Document.withDefault [] (Document.list? Action.ofDocument? inner) actions
    let createdAt ← Document.optional Timestamp.ofDocument? createdAt
    let updatedAt ← Document.optional Timestamp.ofDocument? updatedAt
    return ⟨id, name, description, enabled, priority, severity, condition, actions, createdAt,
      updatedAt⟩
  | _ => none

/-- The JSON text of a rule. -/
def text (r : Rule) : String := r.toDocument.text

/-- The rule of a JSON text. -/
def read? (s : String) : Option Rule := do
  ofDocument? maxNesting (← Document.read? s)

end Rule

/-- The document of a match. -/
def RuleMatch.toDocument (m : RuleMatch) : Document :=
  .record [
    ("rule_id", m.ruleId.toDocument),
    ("rule_name", .ofString m.ruleName),
    ("severity", m.severity.toDocument),
    ("actions", .ofList Action.toDocument m.actions)]

end AlertRules
