import AlertRules.Json.Number

/-!
# JSON values

A value is a tree of the six kinds of JSON. The fields of an object are kept in ascending order of
their names, each name once: `insertField` keeps that order, and a field inserted under a name that
is present replaces the old one.
-/

namespace AlertRules.Json

/-- A JSON value. -/
inductive Value
  | null
  | bool (b : Bool)
  | number (n : Number)
  | string (s : String)
  | array (items : List Value)
  | object (fields : List (String × Value))

namespace Value

mutual

/-- Decides the equality of values. -/
def decEq : (a b : Value) → Decidable (a = b)
  | .null, .null => isTrue rfl
  | .bool a, .bool b => decidable_of_iff (a = b) (by simp)
  | .number a, .number b => decidable_of_iff (a = b) (by simp)
  | .string a, .string b => decidable_of_iff (a = b) (by simp)
  | .array a, .array b => @decidable_of_iff _ (a = b) (by simp) (decEqItems a b)
  | .object a, .object b => @decidable_of_iff _ (a = b) (by simp) (decEqFields a b)
  | .null, .bool _ | .null, .number _ | .null, .string _ | .null, .array _ | .null, .object _
  | .bool _, .null | .bool _, .number _ | .bool _, .string _ | .bool _, .array _
  | .bool _, .object _ | .number _, .null | .number _, .bool _ | .number _, .string _
  | .number _, .array _ | .number _, .object _ | .string _, .null | .string _, .bool _
  | .string _, .number _ | .string _, .array _ | .string _, .object _ | .array _, .null
  | .array _, .bool _ | .array _, .number _ | .array _, .string _ | .array _, .object _
  | .object _, .null | .object _, .bool _ | .object _, .number _ | .object _, .string _
  | .object _, .array _ => isFalse (by simp)

/-- Decides the equality of lists of values. -/
def decEqItems : (a b : List Value) → Decidable (a = b)
  | [], [] => isTrue rfl
  | [], _ :: _ | _ :: _, [] => isFalse (by simp)
  | a :: as, b :: bs =>
    match decEq a b, decEqItems as bs with
    | isTrue h, isTrue hs => isTrue (by rw [h, hs])
    | isFalse h, _ => isFalse (by simp [h])
    | _, isFalse hs => isFalse (by simp [hs])

/-- Decides the equality of lists of named values. -/
def decEqFields : (a b : List (String × Value)) → Decidable (a = b)
  | [], [] => isTrue rfl
  | [], _ :: _ | _ :: _, [] => isFalse (by simp)
  | (k, a) :: as, (l, b) :: bs =>
    if hk : k = l then
      match decEq a b, decEqFields as bs with
      | isTrue h, isTrue hs => isTrue (by rw [hk, h, hs])
      | isFalse h, _ => isFalse (by simp [h])
      | _, isFalse hs => isFalse (by simp [hs])
    else isFalse (by simp [hk])

end

instance : DecidableEq Value := decEq

/-- The field of an object with the given name. -/
def field? (name : String) : List (String × Value) → Option Value
  | [] => none
  | (k, v) :: rest => if k = name then some v else field? name rest

/-- Adds a field at its place in the order of names, or replaces the one of that name. -/
def insertField (name : String) (v : Value) : List (String × Value) → List (String × Value)
  | [] => [(name, v)]
  | (k, w) :: rest =>
    if name < k then (name, v) :: (k, w) :: rest
    else if k = name then (name, v) :: rest
    else (k, w) :: insertField name v rest

/-- The fields of a list of named values: sorted by name, and of several values under one name the
last. -/
def fieldsOf (members : List (String × Value)) : List (String × Value) :=
  members.foldl (fun fields (name, v) => insertField name v fields) []

/-- The object with the given members. -/
def ofMembers (members : List (String × Value)) : Value := .object (fieldsOf members)

/-- A natural number below `2 ^ 64` as a value; larger ones do not occur. -/
def ofNat (n : Nat) : Value :=
  match Integer.ofInt? n with
  | some i => .number (.integer i)
  | none => .null

/-- An integer of 64 bits as a value; others do not occur. -/
def ofInt (n : Int) : Value :=
  match Integer.ofInt? n with
  | some i => .number (.integer i)
  | none => .null

mutual

/-- How deep arrays and objects nest in a value. -/
def nesting : Value → Nat
  | .array items => nestingOfItems items + 1
  | .object fields => nestingOfFields fields + 1
  | _ => 0

/-- How deep arrays and objects nest in the deepest of some values. -/
def nestingOfItems : List Value → Nat
  | [] => 0
  | v :: rest => max (nesting v) (nestingOfItems rest)

/-- How deep arrays and objects nest in the deepest of some named values. -/
def nestingOfFields : List (String × Value) → Nat
  | [] => 0
  | (_, v) :: rest => max (nesting v) (nestingOfFields rest)

end

end Value

end AlertRules.Json
