import AlertRules.Json.Writing
import AlertRules.Store
import AlertRules.Word

/-!
# The cache

A cache keeps texts and hashes of texts under keys, and may be told to let a key expire. The
operations here are programs over its commands. Times to live are whole seconds; an entry that is
written with one lives a second at least.

A counter that is increased gets its time to live when it is new, which shows in that its value is
what it was increased by.
-/

namespace AlertRules

open Json

/-- A command to the cache. -/
inductive CacheCommand
  | ping
  | get (key : String)
  | set (key value : String)
  | setExpiring (key : String) (ttl : Nat) (value : String)
  | delete (key : String)
  | has (key : String)
  | increase (key : String) (delta : Int)
  | expire (key : String) (ttl : Int)
  | hashGet (key field : String)
  | hashSet (key field value : String)
  | hashGetAll (key : String)
  | hashDelete (key field : String)
deriving DecidableEq

namespace CacheCommand

/-- The words of a command as it is sent. -/
def words : CacheCommand → List String
  | ping => ["PING"]
  | get key => ["GET", key]
  | set key value => ["SET", key, value]
  | setExpiring key ttl value => ["SETEX", key, toString ttl, value]
  | delete key => ["DEL", key]
  | has key => ["EXISTS", key]
  | increase key delta => ["INCRBY", key, toString delta]
  | expire key ttl => ["EXPIRE", key, toString ttl]
  | hashGet key field => ["HGET", key, field]
  | hashSet key field value => ["HSET", key, field, value]
  | hashGetAll key => ["HGETALL", key]
  | hashDelete key field => ["HDEL", key, field]

/-- What the cache answers when it does not fail: of a key or a field that is set or taken out,
whether it was there. -/
abbrev Result : CacheCommand → Type
  | ping | set _ _ | setExpiring _ _ _ | expire _ _ => Unit
  | get _ | hashGet _ _ => Option String
  | delete _ | has _ | hashSet _ _ _ | hashDelete _ _ => Bool
  | increase _ _ => Int
  | hashGetAll _ => List (String × String)

/-- What the cache answers. -/
abbrev Answer (c : CacheCommand) : Type := Except BackendFault c.Result

end CacheCommand

/-- A program that sends commands to the cache and yields an `α`. -/
abbrev CacheWork (α : Type) := Program CacheCommand CacheCommand.Answer α

namespace CacheWork

/-- Sends one command. -/
def send (c : CacheCommand) : CacheWork (Except BackendFault c.Result) := .ask c .done

/-- Asks whether the cache answers at all. -/
def probe : CacheWork (Except BackendFault Unit) := send .ping

/-- The text under a key. -/
def get (key : String) : CacheWork (Except BackendFault (Option String)) := send (.get key)

/-- Puts a text under a key. -/
def set (key value : String) : (ttl : Option Nat) → CacheWork (Except BackendFault Unit)
  | none => send (.set key value)
  | some ttl => send (.setExpiring key (max ttl 1) value)

/-- Takes a key out, and yields whether it was there. -/
def delete (key : String) : CacheWork (Except BackendFault Bool) := send (.delete key)

/-- Whether there is a key. -/
def has (key : String) : CacheWork (Except BackendFault Bool) := send (.has key)

/-- The value whose JSON text is under a key. -/
def getJson (key : String) : CacheWork (Except BackendFault (Option Value)) :=
  (get key).orFail fun
    | none => return .ok none
    | some text =>
      match Value.read? text with
      | some v => return .ok (some v)
      | none => return .error (.serialization "not a JSON text")

/-- Puts the JSON text of a value under a key. -/
def setJson (key : String) (v : Value) (ttl : Option Nat) : CacheWork (Except BackendFault Unit) :=
  set key v.text ttl

/-- Increases a counter, and yields its new value. A time to live is given to a counter whose new
value is what it was increased by; it is sent as a signed word. -/
def increase (key : String) (delta : Int) (ttl : Option Nat) :
    CacheWork (Except BackendFault Int) :=
  (send (.increase key delta)).orFail fun n =>
    match ttl with
    | some ttl =>
      if n = delta then (send (.expire key (signedWord ttl))).orFail fun _ => return .ok n
      else return .ok n
    | none => return .ok n

/-- The text of a field of a hash. -/
def hashGet (key field : String) : CacheWork (Except BackendFault (Option String)) :=
  send (.hashGet key field)

/-- Sets a field of a hash. -/
def hashSet (key field value : String) : CacheWork (Except BackendFault Unit) :=
  (send (.hashSet key field value)).orFail fun _ => return .ok ()

/-- The fields of a hash. -/
def hashGetAll (key : String) : CacheWork (Except BackendFault (List (String × String))) :=
  send (.hashGetAll key)

/-- Takes a field out of a hash, and yields whether it was there. -/
def hashDelete (key field : String) : CacheWork (Except BackendFault Bool) :=
  send (.hashDelete key field)

/-- Carries out a call that an operation on rules makes on the cache. -/
def answer : (c : CacheCall) → CacheWork (Except RuleFault c.Answer)
  | .get key => do return (← get key).mapError RuleFault.ofBackend
  | .set key value ttl => do return (← set key value (some ttl)).mapError RuleFault.ofBackend
  | .delete key => do
    return ((← delete key).map fun _ => ()).mapError RuleFault.ofBackend

end CacheWork

end AlertRules
