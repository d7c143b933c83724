import AlertRules.Backend
import AlertRules.Service
import AlertRules.Settings

/-!
# The context of a process

A process connects to its database and its cache when it starts. It does without either that its
settings do not name, and it does not start if one that they name cannot be reached. Without a
database there is no repository. Closing the context closes the database; to close it again changes
nothing.
-/

namespace AlertRules

/-- What a process asks for when it starts. -/
inductive ConnectCall
  | database (s : DatabaseSettings)
  | cache (s : RedisSettings)
deriving DecidableEq

/-- What a process gets: a connection, or why there is none. -/
abbrev ConnectCall.Answer (_ : ConnectCall) : Type := Except BackendFault Unit

/-- A running process: its settings, and what it is connected to. -/
structure Context where
  settings : Settings
  database : Bool
  cache : Bool
  closed : Bool := false
deriving DecidableEq

namespace Context

/-- Connects if that is wanted, and yields whether it was. -/
def connect (wanted : Bool) (c : ConnectCall) :
    Program ConnectCall ConnectCall.Answer (Except BackendFault Bool) :=
  if wanted then (Program.request c).orFail fun () => return .ok true
  else return .ok false

/-- Starts a process: the database is connected to before the cache is. -/
def start (s : Settings) : Program ConnectCall ConnectCall.Answer (Except BackendFault Context) :=
  (connect s.hasDatabase (.database s.database)).orFail fun database =>
    (connect s.hasCache (.cache s.redis)).orFail fun cache =>
      return .ok { settings := s, database, cache }

variable (c : Context)

/-- The repository, if there is a database. -/
def repository : Option Repository :=
  if c.database then
    some {
      cached := c.cache
      listTtl := c.settings.rules.listTtlSeconds.toNat
      ruleTtl := c.settings.rules.ruleTtlSeconds.toNat }
  else none

/-- The service of the process. Its health is that of the database. -/
def service : Service := { repository := c.repository, probesStore := c.database }

/-- The context once it is closed. -/
def close : Context := { c with closed := true }

/-- Carries out an operation by what the process is connected to. -/
def serve {α : Type} (work : Work α) : BackendWork α := Backend.serve (!c.closed) work

end Context

end AlertRules
