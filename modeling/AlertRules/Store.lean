import AlertRules.Fault
import AlertRules.Metrics
import AlertRules.Program
import AlertRules.Rule

/-!
# What operations ask for

Operations on rules ask a store and a cache, and note what they do. The store keeps the rules; the
cache keeps texts under keys for a while. Either may fail on any call.
-/

namespace AlertRules

/-- What a store of rules can be asked. -/
inductive StoreCall
  /-- The enabled rules. -/
  | fetchEnabled
  /-- The rule with an identifier. -/
  | fetchById (id : Uuid)
  /-- The rules with any of the identifiers. -/
  | fetchByIds (ids : List Uuid)
  /-- To add a rule, which the store gives an identifier and its instants. -/
  | insert (r : Rule)
  /-- To put a rule in place of the one with its identifier. -/
  | update (r : Rule)
  /-- To take out the rule with an identifier. -/
  | remove (id : Uuid)
  /-- Whether it is there at all. -/
  | ping

/-- What the store answers when it does not fail. -/
abbrev StoreCall.Answer : StoreCall → Type
  | fetchEnabled | fetchByIds _ => List Rule
  | fetchById _ | update _ => Option Rule
  | insert _ => Rule
  | remove _ => Bool
  | ping => Unit

/-- What a cache can be asked. Times to live are in seconds. -/
inductive CacheCall
  | get (key : String)
  | set (key value : String) (ttl : Nat)
  | delete (key : String)
deriving DecidableEq

/-- What the cache answers when it does not fail. -/
abbrev CacheCall.Answer : CacheCall → Type
  | get _ => Option String
  | set _ _ _ | delete _ => Unit

/-- What an operation asks for. -/
inductive Request
  | store (c : StoreCall)
  | cache (c : CacheCall)
  | observe (o : Observation)

/-- What an operation gets for a request. -/
abbrev Request.Answer : Request → Type
  | store c => Except RuleFault c.Answer
  | cache c => Except RuleFault c.Answer
  | observe _ => Unit

/-- An operation that yields an `α`. -/
abbrev Work (α : Type) := Program Request Request.Answer α

namespace Work

/-- Asks the store. -/
def askStore (c : StoreCall) : Work (Except RuleFault c.Answer) := .ask (.store c) .done

/-- Asks the cache. -/
def askCache (c : CacheCall) : Work (Except RuleFault c.Answer) := .ask (.cache c) .done

/-- Notes something. -/
def observe (o : Observation) : Work Unit := .ask (.observe o) .done

/-- Notes several things. -/
def observeAll : List Observation → Work Unit
  | [] => return ()
  | o :: rest => do
    observe o
    observeAll rest

end Work

end AlertRules
