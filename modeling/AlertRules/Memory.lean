import AlertRules.Store

/-!
# A store and a cache in memory

`Memory` answers the requests of operations from values: a list of rules, a clock that each write
advances by a second, and the entries of a cache, of which none expires. Store and cache can be told
to fail. Every request is kept in a log, the failing ones too, and what is observed is kept apart.
-/

namespace AlertRules

/-- The operations of a cache. -/
inductive CacheOperation
  | get
  | set
  | delete
deriving DecidableEq

/-- The operation a call is of. -/
def CacheCall.operation : CacheCall → CacheOperation
  | get _ => .get
  | set _ _ _ => .set
  | delete _ => .delete

/-- A store and a cache in memory, and what has been asked of them, last first. -/
structure Memory where
  rules : List Rule := []
  clock : Int := 1700000000
  inserted : Nat := 0
  storeFault : Option RuleFault := none
  entries : List (String × String) := []
  failing : List CacheOperation := []
  log : List Request := []
  observed : List Observation := []

namespace Memory

/-- The instant the clock shows. -/
def now (m : Memory) : Option Timestamp := Timestamp.ofParts? m.clock 0

/-- The memory one second later. -/
def tick (m : Memory) : Memory := { m with clock := m.clock + 1 }

/-- Puts a rule in place of the first with its identifier. -/
def replaceFirst (r : Rule) : List Rule → List Rule
  | [] => []
  | old :: rest => if old.id = r.id then r :: rest else old :: replaceFirst r rest

/-- The text under a key. -/
def textUnder (key : String) : List (String × String) → Option String
  | [] => none
  | (k, v) :: rest => if k = key then some v else textUnder key rest

/-- Answers a call that the store does not fail on. -/
def answerStore (m : Memory) : (c : StoreCall) → c.Answer × Memory
  | .fetchEnabled => (m.rules.filter (·.enabled), m)
  | .fetchById id => (m.rules.find? fun r => r.id = some id, m)
  | .fetchByIds ids => (m.rules.filter fun r => ids.any fun id => r.id = some id, m)
  | .insert r =>
    let m := m.tick
    let number := m.inserted + 1
    let stored := { r with id := some (Uuid.ofNat number), createdAt := m.now, updatedAt := m.now }
    (stored, { m with rules := m.rules ++ [stored], inserted := number })
  | .update r =>
    let m := m.tick
    match m.rules.find? fun old => old.id = r.id with
    | none => (none, m)
    | some old =>
      let stored := { r with createdAt := old.createdAt, updatedAt := m.now }
      (some stored, { m with rules := replaceFirst stored m.rules })
  | .remove id =>
    (m.rules.any fun r => r.id = some id,
      { m with rules := m.rules.filter fun r => r.id ≠ some id })
  | .ping => ((), m)

/-- Answers a call that the cache does not fail on. -/
def answerCache (m : Memory) : (c : CacheCall) → c.Answer × Memory
  | .get key => (textUnder key m.entries, m)
  | .set key value _ =>
    ((), { m with entries := (m.entries.filter fun e => e.1 ≠ key) ++ [(key, value)] })
  | .delete key => ((), { m with entries := m.entries.filter fun e => e.1 ≠ key })

/-- Answers a request, and keeps it. -/
def answer : (r : Request) → Memory → r.Answer × Memory
  | .store c, m =>
    let m := { m with log := .store c :: m.log }
    match m.storeFault with
    | some f => (.error f, m)
    | none =>
      let (a, m) := m.answerStore c
      (.ok a, m)
  | .cache c, m =>
    let m := { m with log := .cache c :: m.log }
    if m.failing.contains c.operation then (.error (.cache "connection refused"), m)
    else
      let (a, m) := m.answerCache c
      (.ok a, m)
  | .observe o, m => ((), { m with observed := o :: m.observed })

/-- Runs an operation on the store and the cache in memory. -/
def run {α : Type} (work : Work α) (m : Memory) : α × Memory := Program.run answer work m

end Memory

end AlertRules
