import AlertRules.Text.Blank
import AlertRules.Text.Casing
import AlertRules.Text.Digits

/-!
# Settings

What a process is told about itself: its name, where it listens, where rules are kept and cached,
and what it reports. A blank address of database or cache means there is none. A few variables of
the environment with names of their own override settings last, whatever was said before.
-/

namespace AlertRules

/-- Where requests are taken, and how large a message may be, in bytes. -/
structure ServerSettings where
  host : String := "0.0.0.0"
  port : UInt16 := 50051
  maxMessageBytes : UInt64 := 52428800
deriving DecidableEq

/-- Where rules are kept. -/
structure DatabaseSettings where
  url : String := ""
  maxConnections : UInt32 := 10
  minConnections : UInt32 := 2
  connectTimeoutSeconds : UInt64 := 30
  idleTimeoutSeconds : UInt64 := 600
deriving DecidableEq

/-- Where rules are cached. -/
structure RedisSettings where
  url : String := ""
deriving DecidableEq

/-- What is logged and measured. -/
structure ObservabilitySettings where
  serviceName : String := "telemetryx"
  logLevel : String := "info"
  jsonLogs : Bool := false
  metricsEnabled : Bool := true
  metricsPort : UInt16 := 9090
deriving DecidableEq

/-- How long rules stay cached, in seconds. -/
structure RuleCacheSettings where
  listTtlSeconds : UInt64 := 60
  ruleTtlSeconds : UInt64 := 300
deriving DecidableEq

/-- The settings of a process. -/
structure Settings where
  serviceName : String := "telemetryx"
  environment : String := "development"
  server : ServerSettings := {}
  database : DatabaseSettings := {}
  redis : RedisSettings := {}
  observability : ObservabilitySettings := {}
  rules : RuleCacheSettings := {}
deriving DecidableEq

namespace Settings

/-- The address at which requests are taken. -/
def serverAddress (s : Settings) : String := s.server.host ++ ":" ++ toString s.server.port.toNat

/-- Whether the process serves in earnest. -/
def isProduction (s : Settings) : Bool := s.environment = "production"

/-- Whether there is a database. -/
def hasDatabase (s : Settings) : Bool := !Text.isBlank s.database.url

/-- Whether there is a cache. -/
def hasCache (s : Settings) : Bool := !Text.isBlank s.redis.url

/-- The port a text stands for: digits, and a plus may precede them. -/
def portOfText? (text : String) : Option UInt16 :=
  (Text.natOfText? (UInt16.size - 1) text).map UInt16.ofNat

/-- The settings after the variables that override them. A port that is none is passed over, and the
level of the log is put in lower case. -/
def override (valueOf? : String → Option String) (s : Settings) : Settings :=
  { s with
    server := { s.server with
      host := (valueOf? "GRPC_HOST").getD s.server.host
      port := ((valueOf? "GRPC_PORT").bind portOfText?).getD s.server.port }
    database := { s.database with url := (valueOf? "DATABASE_URL").getD s.database.url }
    redis := { s.redis with url := (valueOf? "REDIS_URL").getD s.redis.url }
    observability := { s.observability with
      logLevel := ((valueOf? "LOG_LEVEL").map Text.toLower).getD s.observability.logLevel } }

end Settings

end AlertRules
