import AlertRules.Cache
import AlertRules.Database.RuleTable

/-!
# The backend

Operations on rules ask a store and a cache. The backend is what stands behind them: `Backend.serve`
carries an operation out by statements of the database and commands of the cache, in the order in
which the operation asks. Once the database is closed nothing is sent to it any more, and every call
on the store fails.
-/

namespace AlertRules

/-- What a backend can be asked. -/
inductive BackendCall
  | database (c : DatabaseCall)
  | cache (c : CacheCommand)
  | observe (o : Observation)

/-- What a backend answers. -/
abbrev BackendCall.Answer : BackendCall → Type
  | database c => c.Answer
  | cache c => c.Answer
  | observe _ => Unit

/-- A program that asks a backend and yields an `α`. -/
abbrev BackendWork (α : Type) := Program BackendCall BackendCall.Answer α

namespace Backend

variable {α : Type}

/-- Runs a session on the database of the backend, if that is open. -/
def ofSession (isOpen : Bool) (session : Session α) : BackendWork α :=
  session.translate fun c =>
    if isOpen then .ask (.database c) .done
    else return c.refusal (.database "the database is closed")

/-- Sends the commands of a program to the cache of the backend. -/
def ofCacheWork (work : CacheWork α) : BackendWork α :=
  work.translate fun c => .ask (.cache c) .done

/-- Carries out one request of an operation. -/
def answer (isOpen : Bool) : (r : Request) → BackendWork r.Answer
  | .store c => ofSession isOpen (RuleTable.answer c)
  | .cache c => ofCacheWork (CacheWork.answer c)
  | .observe o => .ask (.observe o) .done

/-- Carries out an operation. -/
def serve (isOpen : Bool) (work : Work α) : BackendWork α := work.translate (answer isOpen)

end Backend

end AlertRules
