import AlertRules.Condition
import AlertRules.Json.Decoding
import AlertRules.Json.Writing

/-!
# Conditions in JSON

A comparison is an object with `field`, `op` and `value`, a group one with `and` or `or`, and the
empty condition an object with none of these. An object may hold more than one of these shapes; then
`and` counts before `or` and both before a comparison. A comparison without field or operator is the
empty condition, and one without value expects null.

`Condition.ofDocument?` recurses on the number of levels that arrays and objects may still nest: a
group's children stand two levels below it.
-/

namespace AlertRules

open Json

/-- The document of an operator. -/
def Operator.toDocument (o : Operator) : Document := .ofString o.symbol

/-- Reads an operator. -/
def Operator.ofDocument? (limit : Nat) (d : Document) : Option Operator := do
  Operator.ofSymbol? (← d.choice? limit)

namespace Condition

mutual

/-- The document of a condition. -/
def toDocument : Condition → Document
  | .comparison c =>
    .record [("field", .ofString c.field), ("op", c.op.toDocument), ("value", .ofValue c.value)]
  | .allOf children => .record [("and", .array (toDocuments children))]
  | .anyOf children => .record [("or", .array (toDocuments children))]
  | .empty => .record []

/-- The documents of conditions. -/
def toDocuments : List Condition → List Document
  | [] => []
  | c :: rest => toDocument c :: toDocuments rest

end

/-- The condition with these parts. -/
def ofParts (field : Option String) (op : Option Operator) (value : Option Value)
    (all any : Option (List Condition)) : Condition :=
  match all, any, field, op with
  | some children, _, _, _ => .allOf children
  | none, some children, _, _ => .anyOf children
  | none, none, some field, some op => .comparison ⟨field, op, value.getD .null⟩
  | none, none, _, _ => .empty

/-- Reads the children of a group. -/
def children? (child : Document → Option Condition) (limit : Nat) (d : Document) :
    Option (List Condition) := do
  let (_, items) ← d.items? limit
  items.mapM child

/-- Reads a condition whose children are read by `child`. -/
def node? (child : Document → Option Condition) (limit : Nat) (d : Document) :
    Option Condition := do
  match ← d.fields? ["field", "op", "value", "and", "or"] limit with
  | (inner, [field, op, value, all, any]) =>
    let field ← Document.optional Document.asString? field
    let op ← Document.optional (Operator.ofDocument? inner) op
    let value ← Document.optional (Document.toValue? inner) value
    let all ← Document.optional (children? child inner) all
    let any ← Document.optional (children? child inner) any
    return ofParts field op value all any
  | _ => none

/-- Reads a condition in which arrays and objects nest at most `limit` deep. -/
def ofDocument? : (limit : Nat) → Document → Option Condition
  | 0 => node? (fun _ => none) 0
  | 1 => node? (fun _ => none) 1
  | limit + 2 => node? (ofDocument? limit) (limit + 2)

/-- The JSON text of a condition. -/
def text (c : Condition) : String := c.toDocument.text

/-- The condition of a JSON text. -/
def read? (s : String) : Option Condition := do
  ofDocument? maxNesting (← Document.read? s)

end Condition

end AlertRules
