import AlertRules.Json.Document

/-!
# Typed reading of documents

The shapes a typed value takes in JSON. A record is an object of its fields, in which unknown
members are passed over and a known one may not repeat, or an array of its fields in their order.
A choice is its name, or an object of that one name with null. An optional field may be null; one
with a default may only be absent.

Readers take the number of further levels arrays and objects may nest. Only what is read counts:
the value of an unknown member may nest as it likes.
-/

namespace AlertRules.Json.Document

/-- The text of a document that is one. -/
def asString? : Document → Option String
  | .string s => s
  | _ => none

/-- The truth value of a document that is one. -/
def asBool? : Document → Option Bool
  | .bool b => some b
  | _ => none

/-- The integer of a document that is one. -/
def asInt? : Document → Option Int
  | .number (some (.integer n)) => some n.val
  | _ => none

/-- The integer of a document that is one from zero up to, not including, a bound. -/
def asNatBelow? (bound : Nat) (d : Document) : Option Nat := do
  let n ← d.asInt?
  if 0 ≤ n ∧ n < bound then some n.toNat else none

/-- The items of an array, and the levels left inside it. -/
def items? : (limit : Nat) → Document → Option (Nat × List Document)
  | limit + 1, .array items => some (limit, items)
  | _, _ => none

/-- The values of an array whose items are read by `item`. -/
def list? {α : Type} (item : (limit : Nat) → Document → Option α) (limit : Nat) (d : Document) :
    Option (List α) := do
  let (inner, items) ← d.items? limit
  items.mapM (item inner)

/-- The documents of the members with the given name. -/
def membersNamed (name : String) (members : List (Option String × Document)) : List Document :=
  members.filterMap fun (n, d) => if n = some name then some d else none

/-- The members with the given names, in the order of the names. A name may be absent but not
repeated, and every name of the object must be a proper text. -/
def pick? (names : List String) (members : List (Option String × Document)) :
    Option (List (Option Document)) :=
  if members.any fun (n, _) => n.isNone then none
  else names.mapM fun name =>
    match membersNamed name members with
    | [] => some none
    | [d] => some (some d)
    | _ => none

/-- The fields of a record, in the order of the names, and the levels left inside it. An array
gives the fields by position; it may end early but not hold more. -/
def fields? (names : List String) : (limit : Nat) → Document →
    Option (Nat × List (Option Document))
  | limit + 1, .object members => (pick? names members).map fun ds => (limit, ds)
  | limit + 1, .array items =>
    if items.length ≤ names.length then
      some (limit, items.map some ++ List.replicate (names.length - items.length) none)
    else none
  | _, _ => none

/-- The name of a choice. -/
def choice? : (limit : Nat) → Document → Option String
  | _, .string s => s
  | _ + 1, .object [(name, .null)] => name
  | _, _ => none

/-- Reads a field that may be absent or null. -/
def optional {α : Type} (read : Document → Option α) : Option Document → Option (Option α)
  | none => some none
  | some .null => some none
  | some d => (read d).map some

/-- Reads a field that has a default. -/
def withDefault {α : Type} (default : α) (read : Document → Option α) :
    Option Document → Option α
  | none => some default
  | some d => read d

/-- Reads a field that must be there. -/
def required {α : Type} (read : Document → Option α) : Option Document → Option α
  | none => none
  | some d => read d

/-- Reads an object of any members, of which the last of each name counts. -/
def asFields? (limit : Nat) (d : Document) : Option (List (String × Value)) := do
  match ← d.toValue? limit with
  | .object fields => some fields
  | _ => none

/-- Reads a typed value from a value, which may nest as deep as it does. -/
def decodeValue? {α : Type} (read : (limit : Nat) → Document → Option α) (v : Value) : Option α :=
  let d := ofValue v
  read d.nesting d

end AlertRules.Json.Document
