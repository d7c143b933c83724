import AlertRules.Rule.Codec
import AlertRules.Store

/-!
# The repository

The repository reads rules through the cache and writes them to the store. The cache holds the list
of the identifiers of enabled rules under one key, and each rule under a key of its own. A read that
finds something in the cache does not ask the store for it; one that does not leaves in the cache
what the store answered. A write takes from the cache whatever it makes stale, after the store has
done it.

The cache never makes an operation fail. What it cannot give, or what cannot be read, counts as not
there; what it does not take is let go.
-/

namespace AlertRules

open Json

/-- How rules are read and written: with a cache or without, and how long entries live, in
seconds. -/
structure Repository where
  cached : Bool
  listTtl : Nat := 60
  ruleTtl : Nat := 300
deriving DecidableEq

namespace Repository

/-- The key of the list of enabled rules. -/
def listKey : String := "rules:enabled"

/-- The key of a rule. -/
def ruleKey (id : Uuid) : String := "rules:id:" ++ id.text

/-- The text of a list of identifiers. -/
def idsText (ids : List Uuid) : String := (Document.ofList Uuid.toDocument ids).text

/-- The identifiers of a text that is a list of texts; those that are none are passed over. -/
def readIds? (text : String) : Option (List Uuid) := do
  let d ← Document.read? text
  let texts ← d.list? (fun _ item => item.asString?) maxNesting
  return texts.filterMap Uuid.ofString?

variable (repo : Repository)

/-- Looks a key up in the cache, and notes how that came out. -/
def lookUp (kind key : String) : Work (Option String) :=
  if repo.cached then do
    match ← Work.askCache (.get key) with
    | .ok (some text) =>
      Work.observe (.lookup kind .hit)
      return some text
    | .ok none =>
      Work.observe (.lookup kind .miss)
      return none
    | .error _ =>
      Work.observe (.lookup kind .error)
      return none
  else return none

/-- Puts a text into the cache. -/
def keep (key text : String) (ttl : Nat) : Work Unit := do
  if repo.cached then
    let _ ← Work.askCache (.set key text ttl)

/-- Takes a key from the cache. -/
def forget (key : String) : Work Unit := do
  if repo.cached then
    let _ ← Work.askCache (.delete key)

/-- The cached list of the identifiers of enabled rules. -/
def cachedIds : Work (Option (List Uuid)) := do
  let text ← repo.lookUp "enabled_list" listKey
  return text.bind readIds?

/-- The cached rule with an identifier. -/
def cachedRule (id : Uuid) : Work (Option Rule) := do
  let text ← repo.lookUp "rule" (ruleKey id)
  return text.bind Rule.read?

/-- The cached rules with some identifiers. -/
def cachedRules : List Uuid → Work (List (Uuid × Option Rule))
  | [] => return []
  | id :: rest => do
    let r ← repo.cachedRule id
    let others ← cachedRules rest
    return (id, r) :: others

/-- Caches a rule, if it has an identifier. -/
def cacheRule (r : Rule) : Work Unit :=
  match r.id with
  | none => return ()
  | some id => repo.keep (ruleKey id) r.text repo.ruleTtl

/-- Caches rules. -/
def cacheRules : List Rule → Work Unit
  | [] => return ()
  | r :: rest => do
    repo.cacheRule r
    cacheRules rest

/-- Caches the list of enabled rules, and each of them. -/
def cacheEnabled (rules : List Rule) : Work Unit := do
  repo.keep listKey (idsText (rules.filterMap (·.id))) repo.listTtl
  repo.cacheRules rules

/-- The rule among those fetched that has an identifier: the last, if there are several. -/
def fetched? (rules : List Rule) (id : Uuid) : Option Rule :=
  (rules.filter fun r => r.id = some id).getLast?

/-- The rules of a list in its order: a rule that was not cached is the one fetched under its
identifier, which is used once. -/
def assemble : List (Uuid × Option Rule) → (fetched : List Rule) → List Rule
  | [], _ => []
  | (_, some r) :: rest, fetched => r :: assemble rest fetched
  | (id, none) :: rest, fetched =>
    (fetched? fetched id).toList ++ assemble rest (fetched.filter fun r => r.id ≠ some id)

/-- The identifiers for which no rule was cached. -/
def missing (found : List (Uuid × Option Rule)) : List Uuid :=
  found.filterMap fun (id, r) => if r.isNone then some id else none

/-- The rules of a cached list. Those that are not cached are fetched together. -/
def resolveIds (ids : List Uuid) : Work (Except RuleFault (List Rule)) := do
  let found ← repo.cachedRules ids
  match missing found with
  | [] => return .ok (assemble found [])
  | absent =>
    Program.orFail (Work.askStore (.fetchByIds absent)) fun rules => do
      repo.cacheRules rules
      return .ok (assemble found rules)

/-- The enabled rules, in ascending order of priority. -/
def enabledRules : Work (Except RuleFault (List Rule)) := do
  match ← repo.cachedIds with
  | some ids =>
    Program.orFail (repo.resolveIds ids) fun rules => return .ok (Rule.sortByPriority rules)
  | none =>
    Program.orFail (Work.askStore .fetchEnabled) fun rules => do
      repo.cacheEnabled rules
      return .ok (Rule.sortByPriority rules)

/-- The rule with an identifier. -/
def byId (id : Uuid) : Work (Except RuleFault (Option Rule)) := do
  match ← repo.cachedRule id with
  | some r => return .ok (some r)
  | none =>
    Program.orFail (Work.askStore (.fetchById id)) fun r => do
      match r with
      | some r =>
        repo.cacheRule r
        return .ok (some r)
      | none => return .ok none

/-- Stores a new rule, and yields it as stored. -/
def create (r : Rule) : Work (Except RuleFault Rule) :=
  Program.orFail (Work.askStore (.insert r)) fun stored => do
    repo.forget listKey
    return .ok stored

/-- Forgets all that a change of one rule makes stale. -/
def forgetRule (id : Uuid) : Work Unit := do
  repo.forget (ruleKey id)
  repo.forget listKey

/-- Puts a rule in place of the stored one with its identifier, and yields it as stored; without
one, or without an identifier, nothing changes. -/
def update (r : Rule) : Work (Except RuleFault (Option Rule)) :=
  match r.id with
  | none => return .ok none
  | some id =>
    Program.orFail (Work.askStore (.update r)) fun stored => do
      if stored.isSome then repo.forgetRule id
      return .ok stored

/-- Takes out the rule with an identifier, and yields whether there was one. -/
def delete (id : Uuid) : Work (Except RuleFault Bool) :=
  Program.orFail (Work.askStore (.remove id)) fun removed => do
    if removed then repo.forgetRule id
    return .ok removed

end Repository

end AlertRules
