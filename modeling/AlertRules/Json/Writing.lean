import AlertRules.Json.Document

/-!
# Compact JSON text

`Document.write` is the text of a document without blanks. Characters outside ASCII stand for
themselves; of the others only quotation marks, backslashes and controls are escaped. Typed values
are written as documents, whose members keep their order, so a record is written in the order of
its fields, and a plain value in the order of names.
-/

namespace AlertRules.Json

/-- The hexadecimal digit for a number below sixteen. -/
def hexDigit (n : Nat) : Char :=
  if n < 10 then Char.ofNat ('0'.toNat + n) else Char.ofNat ('a'.toNat + (n - 10))

/-- A character as it stands inside a quoted text. -/
def escapeChar (c : Char) : List Char :=
  if c = '"' then ['\\', '"']
  else if c = '\\' then ['\\', '\\']
  else if c.toNat = 0x08 then ['\\', 'b']
  else if c.toNat = 0x0c then ['\\', 'f']
  else if c = '\n' then ['\\', 'n']
  else if c = '\r' then ['\\', 'r']
  else if c = '\t' then ['\\', 't']
  else if c.toNat < 0x20 then
    ['\\', 'u', '0', '0', hexDigit (c.toNat / 16), hexDigit (c.toNat % 16)]
  else [c]

/-- A text in quotation marks. -/
def writeString (s : String) : List Char :=
  '"' :: s.toList.flatMap escapeChar ++ ['"']

namespace Document

mutual

/-- The compact text of a document. Texts and numbers without a value do not occur in what is
written; they would be null. -/
def write : Document → List Char
  | .null => ['n', 'u', 'l', 'l']
  | .bool true => ['t', 'r', 'u', 'e']
  | .bool false => ['f', 'a', 'l', 's', 'e']
  | .number (some n) => n.text.toList
  | .number none => ['n', 'u', 'l', 'l']
  | .string (some s) => writeString s
  | .string none => ['n', 'u', 'l', 'l']
  | .array [] => ['[', ']']
  | .array (d :: rest) => '[' :: write d ++ writeItems rest ++ [']']
  | .object [] => ['\x7b', '\x7d']
  | .object (m :: rest) => '\x7b' :: writeMember m ++ writeMembers rest ++ ['\x7d']

/-- The texts of documents, each behind a comma. -/
def writeItems : List Document → List Char
  | [] => []
  | d :: rest => ',' :: write d ++ writeItems rest

/-- The text of a member. -/
def writeMember : Option String × Document → List Char
  | (name, d) => writeString (name.getD "") ++ ':' :: write d

/-- The texts of members, each behind a comma. -/
def writeMembers : List (Option String × Document) → List Char
  | [] => []
  | m :: rest => ',' :: writeMember m ++ writeMembers rest

end

/-- The compact text of a document. -/
def text (d : Document) : String := String.ofList d.write

/-- The document of a text value. -/
def ofString (s : String) : Document := .string (some s)

/-- The document of a record with the given fields. -/
def record (fields : List (String × Document)) : Document :=
  .object (fields.map fun (name, d) => (some name, d))

/-- The document of a number below `2 ^ 64`; larger ones do not occur. -/
def ofNat (n : Nat) : Document := ofValue (.ofNat n)

/-- The document of an integer of 64 bits; others do not occur. -/
def ofInt (n : Int) : Document := ofValue (.ofInt n)

/-- The document of something that may be missing: null when it is. -/
def ofOption {α : Type} (write : α → Document) : Option α → Document
  | none => .null
  | some a => write a

/-- The document of a list. -/
def ofList {α : Type} (write : α → Document) (items : List α) : Document :=
  .array (items.map write)

end Document

/-- The compact text of a value. -/
def Value.text (v : Value) : String := (Document.ofValue v).text

end AlertRules.Json
