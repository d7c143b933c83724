import AlertRules.Double.Floating
import AlertRules.Json.Value

/-!
# Event messages

Events arrive as messages: a few fields of their own, and a tree of attributes. `toValue` lays an
event out as the object in which rules look up their fields; the attributes stand under
`attributes`. A number that is not finite and a value of no kind become null, and so count as
missing.
-/

namespace AlertRules

open Json

/-- An attribute of an event; `unset` is a value of no kind. -/
inductive Attribute
  | unset
  | null
  | bool (b : Bool)
  | number (x : Floating)
  | string (s : String)
  | list (items : List Attribute)
  | struct (fields : List (String × Attribute))

/-- An event as it arrives. -/
structure EventMessage where
  id : String
  eventType : String
  timestamp : Int64
  source : String
  value : Floating
  attributes : Option (List (String × Attribute))

/-- The value of a number, which is null when it is not finite. -/
def Json.Value.ofFloating : Floating → Value
  | .finite d => .number (.double d)
  | .infinite _ | .notANumber => .null

namespace Attribute

mutual

/-- An attribute as a value. -/
def toValue : Attribute → Value
  | .unset | .null => .null
  | .bool b => .bool b
  | .number x => .ofFloating x
  | .string s => .string s
  | .list items => .array (toItems items)
  | .struct fields => .object (toFields fields)

/-- Attributes as values. -/
def toItems : List Attribute → List Value
  | [] => []
  | a :: rest => toValue a :: toItems rest

/-- Named attributes as the fields of an object. -/
def toFields : List (String × Attribute) → List (String × Value)
  | [] => []
  | (name, a) :: rest => (name, toValue a) :: toFields rest

end

end Attribute

/-- The object in which rules look up the fields of an event. -/
def EventMessage.toValue (e : EventMessage) : Value :=
  .ofMembers [
    ("id", .string e.id),
    ("event_type", .string e.eventType),
    ("timestamp", .ofInt e.timestamp.toInt),
    ("source", .string e.source),
    ("value", .ofFloating e.value),
    ("attributes", .object (Attribute.toFields (e.attributes.getD [])))]

end AlertRules
