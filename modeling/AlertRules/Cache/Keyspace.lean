import AlertRules.Cache
import AlertRules.Text.Digits
import AlertRules.Word

/-!
# Keys and what is under them

`Keyspace.answer` says what each command of the cache does to the keys and what it answers. Under a
key is a text or a hash, and a command meant for the other kind fails. A counter is a text that is
the decimal of a signed integer of 64 bits; one that would leave their range is not increased. A
hash that loses its last field is gone. No key expires here.
-/

namespace AlertRules

/-- What is under a key. -/
inductive Entry
  | text (s : String)
  | hash (fields : List (String × String))
deriving DecidableEq

/-- The keys, in the order in which they were first set. -/
abbrev Keyspace := List (String × Entry)

namespace Keyspace

/-- Sets what is under a key, or in a field, in place of what is there. -/
def put {α : Type} (key : String) (a : α) : List (String × α) → List (String × α)
  | [] => [(key, a)]
  | (k, b) :: rest => if k = key then (key, a) :: rest else (k, b) :: put key a rest

/-- Takes out a key, or a field. -/
def erase {α : Type} (key : String) (entries : List (String × α)) : List (String × α) :=
  entries.filter fun (k, _) => k ≠ key

/-- Whether there is a key, or a field. -/
def has {α : Type} (key : String) (entries : List (String × α)) : Bool :=
  (entries.lookup key).isSome

/-- The fault of a command that is meant for another kind of entry. -/
def wrongKind : BackendFault := .redis "the key holds a value of another kind"

/-- The text under a key. -/
def textAt (key : String) (ks : Keyspace) : Except BackendFault (Option String) :=
  match ks.lookup key with
  | none => .ok none
  | some (.text s) => .ok (some s)
  | some (.hash _) => .error wrongKind

/-- The fields of the hash under a key; a key that is not there has none. -/
def fieldsAt (key : String) (ks : Keyspace) : Except BackendFault (List (String × String)) :=
  match ks.lookup key with
  | none => .ok []
  | some (.hash fields) => .ok fields
  | some (.text _) => .error wrongKind

/-- The integer whose decimal a text is, if it is one of 64 bits. -/
def counterOf? (text : String) : Option Int := do
  let n ← Text.intOfText? text
  if toString n = text ∧ FitsInt64 n then some n else none

/-- The value of the counter under a key; a new one starts from zero. -/
def counterAt (key : String) (ks : Keyspace) : Except BackendFault Int := do
  match ← textAt key ks with
  | none => return 0
  | some text =>
    match counterOf? text with
    | some n => return n
    | none => .error (.redis "the value is not an integer")

/-- The value of the counter under a key after it was increased. -/
def increased (key : String) (delta : Int) (ks : Keyspace) : Except BackendFault Int := do
  let n := (← counterAt key ks) + delta
  if FitsInt64 n then return n
  else .error (.redis "the counter would overflow")

/-- Sets the fields of the hash under a key; without fields there is no hash. -/
def putFields (key : String) (fields : List (String × String)) (ks : Keyspace) : Keyspace :=
  if fields.isEmpty then erase key ks else put key (.hash fields) ks

/-- An answer that leaves the keys as they are, or, if it is no failure, changes them. -/
def answerWith {α β : Type} (ks : Keyspace) (found : Except BackendFault α) (result : α → β)
    (change : α → Keyspace) : Except BackendFault β × Keyspace :=
  match found with
  | .ok a => (.ok (result a), change a)
  | .error f => (.error f, ks)

/-- Carries out a command. -/
def answer : (c : CacheCommand) → Keyspace → c.Answer × Keyspace
  | .ping, ks => (.ok (), ks)
  | .get key, ks => (textAt key ks, ks)
  | .set key value, ks => (.ok (), put key (.text value) ks)
  | .setExpiring key _ value, ks => (.ok (), put key (.text value) ks)
  | .delete key, ks => (.ok (has key ks), erase key ks)
  | .has key, ks => (.ok (has key ks), ks)
  | .increase key delta, ks =>
    answerWith ks (increased key delta ks) id fun n => put key (.text (toString n)) ks
  | .expire _ _, ks => (.ok (), ks)
  | .hashGet key field, ks => ((fieldsAt key ks).map fun fields => fields.lookup field, ks)
  | .hashSet key field value, ks =>
    answerWith ks (fieldsAt key ks) (has field) fun fields =>
      putFields key (put field value fields) ks
  | .hashGetAll key, ks => (fieldsAt key ks, ks)
  | .hashDelete key field, ks =>
    answerWith ks (fieldsAt key ks) (has field) fun fields => putFields key (erase field fields) ks

end Keyspace

end AlertRules
