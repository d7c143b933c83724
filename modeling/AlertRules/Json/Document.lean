import AlertRules.Json.Token
import AlertRules.Json.Value

/-!
# Documents

A document is what a JSON text says before anyone asks what it means: members keep their order and
may repeat a name, and texts and numbers that have no value are kept as `none`. Nesting is not
limited. `Document.read?` reads a text; a reader of a typed value then decides which parts of the
document matter.
-/

namespace AlertRules.Json

/-- The tree of a JSON text. -/
inductive Document
  | null
  | bool (b : Bool)
  | number (n : Option Number)
  | string (s : Option String)
  | array (items : List Document)
  | object (members : List (Option String × Document))

/-- A bracket that is open while a text is read: what has been read inside it, last first. A
`member` also has a name that waits for its value. -/
inductive Frame
  | array (items : List Document)
  | object (members : List (Option String × Document))
  | member (members : List (Option String × Document)) (name : Option String)

/-- What may come next while a text is read. -/
inductive Phase
  /-- A value. -/
  | value
  /-- A value, or the end of the array just opened. -/
  | firstItem
  /-- A member name, or the end of the object just opened. -/
  | firstName
  /-- A member name. -/
  | name
  /-- The colon after a member name. -/
  | colon
  /-- A comma, or the end of the innermost array or object. -/
  | next
  /-- Nothing: the document is complete. -/
  | done (d : Document)

/-- Puts a complete value into the innermost open bracket. -/
def settle (d : Document) : List Frame → Option (List Frame × Phase)
  | [] => some ([], .done d)
  | .array items :: outer => some (.array (d :: items) :: outer, .next)
  | .member members name :: outer => some (.object ((name, d) :: members) :: outer, .next)
  | .object _ :: _ => none

/-- Reads the start of a value. -/
def openValue (frames : List Frame) : Token → Option (List Frame × Phase)
  | .null => settle .null frames
  | .bool b => settle (.bool b) frames
  | .number n => settle (.number n) frames
  | .string s => settle (.string s) frames
  | .arrayOpen => some (.array [] :: frames, .firstItem)
  | .objectOpen => some (.object [] :: frames, .firstName)
  | _ => none

/-- Reads one token. -/
def step : List Frame → Phase → Token → Option (List Frame × Phase)
  | frames, .value, t => openValue frames t
  | .array items :: outer, .firstItem, .arrayClose => settle (.array items.reverse) outer
  | frames, .firstItem, t => openValue frames t
  | .object members :: outer, .firstName, .objectClose => settle (.object members.reverse) outer
  | .object members :: outer, .firstName, .string s => some (.member members s :: outer, .colon)
  | .object members :: outer, .name, .string s => some (.member members s :: outer, .colon)
  | frames, .colon, .colon => some (frames, .value)
  | .array items :: outer, .next, .comma => some (.array items :: outer, .value)
  | .array items :: outer, .next, .arrayClose => settle (.array items.reverse) outer
  | .object members :: outer, .next, .comma => some (.object members :: outer, .name)
  | .object members :: outer, .next, .objectClose => settle (.object members.reverse) outer
  | _, _, _ => none

/-- Reads the tokens of a whole document. -/
def build : List Frame → Phase → List Token → Option Document
  | _, .done d, [] => some d
  | _, _, [] => none
  | frames, phase, t :: rest => do
    let (frames', phase') ← step frames phase t
    build frames' phase' rest

namespace Document

/-- The document of a text: one value, with nothing but blanks around it. -/
def read? (s : String) : Option Document := do
  build [] .value (← tokens? s.toList)

mutual

/-- A value as a document. -/
def ofValue : Value → Document
  | .null => .null
  | .bool b => .bool b
  | .number n => .number (some n)
  | .string s => .string (some s)
  | .array items => .array (ofItems items)
  | .object fields => .object (ofFields fields)

/-- Values as documents. -/
def ofItems : List Value → List Document
  | [] => []
  | v :: rest => ofValue v :: ofItems rest

/-- The fields of an object as members of a document. -/
def ofFields : List (String × Value) → List (Option String × Document)
  | [] => []
  | (name, v) :: rest => (some name, ofValue v) :: ofFields rest

end

mutual

/-- The value a document stands for, if arrays and objects nest at most `limit` deep in it and all
its texts and numbers have values. Of members with one name the last counts. -/
def toValue? : (limit : Nat) → Document → Option Value
  | _, .null => some .null
  | _, .bool b => some (.bool b)
  | _, .number n => n.map .number
  | _, .string s => s.map .string
  | limit + 1, .array items => (toItems? limit items).map .array
  | limit + 1, .object members => (toFields? limit members).map Value.ofMembers
  | 0, .array _ | 0, .object _ => none

/-- The values of documents. -/
def toItems? : (limit : Nat) → List Document → Option (List Value)
  | _, [] => some []
  | limit, d :: rest => do
    let v ← toValue? limit d
    let vs ← toItems? limit rest
    return v :: vs

/-- The named values of members. -/
def toFields? : (limit : Nat) → List (Option String × Document) → Option (List (String × Value))
  | _, [] => some []
  | limit, (name, d) :: rest => do
    let k ← name
    let v ← toValue? limit d
    let vs ← toFields? limit rest
    return (k, v) :: vs

end

mutual

/-- How deep arrays and objects nest in a document. -/
def nesting : Document → Nat
  | .array items => nestingOfItems items + 1
  | .object members => nestingOfMembers members + 1
  | _ => 0

/-- How deep arrays and objects nest in the deepest of some documents. -/
def nestingOfItems : List Document → Nat
  | [] => 0
  | d :: rest => max (nesting d) (nestingOfItems rest)

/-- How deep arrays and objects nest in the deepest of some members. -/
def nestingOfMembers : List (Option String × Document) → Nat
  | [] => 0
  | (_, d) :: rest => max (nesting d) (nestingOfMembers rest)

end

end Document

/-- How deep arrays and objects may nest in a text that is read into a value. -/
def maxNesting : Nat := 127

/-- The value of a JSON text. -/
def Value.read? (s : String) : Option Value := do
  (← Document.read? s).toValue? maxNesting

end AlertRules.Json
