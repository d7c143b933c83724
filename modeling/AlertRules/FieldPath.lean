import AlertRules.Json.Value
import AlertRules.Text.Search

/-!
# Field paths

A path names a field of an event by the names of the objects on the way to it, with dots between
them. A field that is null counts as missing, and so does whatever lies behind one, or behind
something that is no object.
-/

namespace AlertRules.Json.Value

/-- The field a value has under a name, unless it is null or the value is no object. -/
def child? (v : Value) (name : String) : Option Value :=
  match v with
  | .object fields =>
    match field? name fields with
    | none | some .null => none
    | some w => some w
  | _ => none

/-- Follows names from a value on. -/
def follow (v : Value) : List String → Option Value
  | [] => some v
  | name :: names =>
    match v.child? name with
    | none => none
    | some w => follow w names

/-- The value at a path. -/
def resolve (v : Value) (path : String) : Option Value := v.follow (Text.split '.' path)

end AlertRules.Json.Value
