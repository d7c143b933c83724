import AlertRules.Proofs.Settings.Merging
import AlertRules.Settings.Loading

/-!
# The leaves of settings

Settings are eighteen leaves, two of them at the top and the others in five sections
(`Settings.Leaf`). Each is read on its own: from the value at its path, and if there is none, it has
its default (`Leaf.of_ofSetting?`), provided that what stands for a section is a table; of a list
the items would be taken in the order of the fields.
-/

namespace AlertRules

open Setting

namespace Settings

/-- The names of the sections. -/
def sectionNames : List String := ["server", "database", "redis", "observability", "rules"]

/-- A leaf of settings, with a value of type `α`. -/
inductive Leaf : (α : Type) → Type
  | serviceName : Leaf String
  | environment : Leaf String
  | host : Leaf String
  | port : Leaf UInt16
  | maxMessageBytes : Leaf UInt64
  | databaseUrl : Leaf String
  | maxConnections : Leaf UInt32
  | minConnections : Leaf UInt32
  | connectTimeoutSeconds : Leaf UInt64
  | idleTimeoutSeconds : Leaf UInt64
  | redisUrl : Leaf String
  | reportedName : Leaf String
  | logLevel : Leaf String
  | jsonLogs : Leaf Bool
  | metricsEnabled : Leaf Bool
  | metricsPort : Leaf UInt16
  | listTtlSeconds : Leaf UInt64
  | ruleTtlSeconds : Leaf UInt64

namespace Leaf

variable {α : Type}

/-- The names on the way to a leaf. -/
def path : Leaf α → List String
  | serviceName => ["service_name"]
  | environment => ["environment"]
  | host => ["server", "host"]
  | port => ["server", "port"]
  | maxMessageBytes => ["server", "max_message_bytes"]
  | databaseUrl => ["database", "url"]
  | maxConnections => ["database", "max_connections"]
  | minConnections => ["database", "min_connections"]
  | connectTimeoutSeconds => ["database", "connect_timeout_seconds"]
  | idleTimeoutSeconds => ["database", "idle_timeout_seconds"]
  | redisUrl => ["redis", "url"]
  | reportedName => ["observability", "service_name"]
  | logLevel => ["observability", "log_level"]
  | jsonLogs => ["observability", "json_logs"]
  | metricsEnabled => ["observability", "metrics_enabled"]
  | metricsPort => ["observability", "metrics_port"]
  | listTtlSeconds => ["rules", "list_cache_ttl_secs"]
  | ruleTtlSeconds => ["rules", "rule_cache_ttl_secs"]

/-- The value of a leaf. -/
def get : Leaf α → Settings → α
  | serviceName, s => s.serviceName
  | environment, s => s.environment
  | host, s => s.server.host
  | port, s => s.server.port
  | maxMessageBytes, s => s.server.maxMessageBytes
  | databaseUrl, s => s.database.url
  | maxConnections, s => s.database.maxConnections
  | minConnections, s => s.database.minConnections
  | connectTimeoutSeconds, s => s.database.connectTimeoutSeconds
  | idleTimeoutSeconds, s => s.database.idleTimeoutSeconds
  | redisUrl, s => s.redis.url
  | reportedName, s => s.observability.serviceName
  | logLevel, s => s.observability.logLevel
  | jsonLogs, s => s.observability.jsonLogs
  | metricsEnabled, s => s.observability.metricsEnabled
  | metricsPort, s => s.observability.metricsPort
  | listTtlSeconds, s => s.rules.listTtlSeconds
  | ruleTtlSeconds, s => s.rules.ruleTtlSeconds

/-- The default of a leaf. -/
def standard (l : Leaf α) : α := l.get {}

/-- Reads a leaf as its kind, leniently. -/
def read? : Leaf α → Setting → Option α
  | serviceName | environment | host | databaseUrl | redisUrl | reportedName | logLevel => asText?
  | jsonLogs | metricsEnabled => asBool?
  | port | metricsPort => asWord16?
  | maxConnections | minConnections => asWord32?
  | maxMessageBytes | connectTimeoutSeconds | idleTimeoutSeconds => asWord64?
  | listTtlSeconds | ruleTtlSeconds => asWord64?

/-- The value that a variable of its own gives to a leaf: a port must be one, and the level of the
log is put in lower case. -/
def override? : Leaf α → (valueOf? : String → Option String) → Option α
  | databaseUrl, valueOf? => valueOf? "DATABASE_URL"
  | redisUrl, valueOf? => valueOf? "REDIS_URL"
  | host, valueOf? => valueOf? "GRPC_HOST"
  | port, valueOf? => (valueOf? "GRPC_PORT").bind portOfText?
  | logLevel, valueOf? => (valueOf? "LOG_LEVEL").map Text.toLower
  | _, _ => none

theorem get_override (l : Leaf α) (valueOf? : String → Option String) (s : Settings) :
    l.get (s.override valueOf?) = (l.override? valueOf?).getD (l.get s) := by
  cases l <;> rfl

theorem leaflike_read? (l : Leaf α) : Leaflike l.read? := by
  intro entries
  cases l <;> rfl

/-- A leaf is at the top, or in a section. -/
theorem path_cases (l : Leaf α) :
    (∃ name, l.path = [name] ∧ name ∉ sectionNames) ∨
      ∃ part name, l.path = [part, name] ∧ part ∈ sectionNames := by
  cases l with
  | serviceName => exact .inl ⟨_, rfl, by decide⟩
  | environment => exact .inl ⟨_, rfl, by decide⟩
  | _ => exact .inr ⟨_, _, rfl, by decide⟩

end Leaf

end Settings

/-! ## Reading sections -/

theorem ServerSettings.of_ofSetting? {es : List (String × Setting)} {s : ServerSettings}
    (h : ofSetting? (.table es) = some s) :
    orDefault ({} : ServerSettings).host asText? (entryIfAny "host" es) = some s.host ∧
    orDefault ({} : ServerSettings).port asWord16? (entryIfAny "port" es) = some s.port ∧
    orDefault ({} : ServerSettings).maxMessageBytes asWord64? (entryIfAny "max_message_bytes" es) =
      some s.maxMessageBytes := by
  obtain ⟨host, hhost, h⟩ := Option.bind_eq_some_iff.mp h
  obtain ⟨port, hport, h⟩ := Option.bind_eq_some_iff.mp h
  obtain ⟨size, hsize, h⟩ := Option.bind_eq_some_iff.mp h
  cases h
  exact ⟨hhost, hport, hsize⟩

theorem DatabaseSettings.of_ofSetting? {es : List (String × Setting)} {s : DatabaseSettings}
    (h : ofSetting? (.table es) = some s) :
    orDefault ({} : DatabaseSettings).url asText? (entryIfAny "url" es) = some s.url ∧
    orDefault ({} : DatabaseSettings).maxConnections asWord32? (entryIfAny "max_connections" es) =
      some s.maxConnections ∧
    orDefault ({} : DatabaseSettings).minConnections asWord32? (entryIfAny "min_connections" es) =
      some s.minConnections ∧
    orDefault ({} : DatabaseSettings).connectTimeoutSeconds asWord64?
      (entryIfAny "connect_timeout_seconds" es) = some s.connectTimeoutSeconds ∧
    orDefault ({} : DatabaseSettings).idleTimeoutSeconds asWord64?
      (entryIfAny "idle_timeout_seconds" es) = some s.idleTimeoutSeconds := by
  obtain ⟨url, hurl, h⟩ := Option.bind_eq_some_iff.mp h
  obtain ⟨most, hmost, h⟩ := Option.bind_eq_some_iff.mp h
  obtain ⟨least, hleast, h⟩ := Option.bind_eq_some_iff.mp h
  obtain ⟨connect, hconnect, h⟩ := Option.bind_eq_some_iff.mp h
  obtain ⟨idle, hidle, h⟩ := Option.bind_eq_some_iff.mp h
  cases h
  exact ⟨hurl, hmost, hleast, hconnect, hidle⟩

theorem RedisSettings.of_ofSetting? {es : List (String × Setting)} {s : RedisSettings}
    (h : ofSetting? (.table es) = some s) :
    orDefault ({} : RedisSettings).url asText? (entryIfAny "url" es) = some s.url := by
  obtain ⟨url, hurl, h⟩ := Option.bind_eq_some_iff.mp h
  cases h
  exact hurl

theorem ObservabilitySettings.of_ofSetting? {es : List (String × Setting)}
    {s : ObservabilitySettings} (h : ofSetting? (.table es) = some s) :
    orDefault ({} : ObservabilitySettings).serviceName asText? (entryIfAny "service_name" es) =
      some s.serviceName ∧
    orDefault ({} : ObservabilitySettings).logLevel asText? (entryIfAny "log_level" es) =
      some s.logLevel ∧
    orDefault ({} : ObservabilitySettings).jsonLogs asBool? (entryIfAny "json_logs" es) =
      some s.jsonLogs ∧
    orDefault ({} : ObservabilitySettings).metricsEnabled asBool?
      (entryIfAny "metrics_enabled" es) = some s.metricsEnabled ∧
    orDefault ({} : ObservabilitySettings).metricsPort asWord16? (entryIfAny "metrics_port" es) =
      some s.metricsPort := by
  obtain ⟨name, hname, h⟩ := Option.bind_eq_some_iff.mp h
  obtain ⟨level, hlevel, h⟩ := Option.bind_eq_some_iff.mp h
  obtain ⟨json, hjson, h⟩ := Option.bind_eq_some_iff.mp h
  obtain ⟨enabled, henabled, h⟩ := Option.bind_eq_some_iff.mp h
  obtain ⟨port, hport, h⟩ := Option.bind_eq_some_iff.mp h
  cases h
  exact ⟨hname, hlevel, hjson, henabled, hport⟩

theorem RuleCacheSettings.of_ofSetting? {es : List (String × Setting)} {s : RuleCacheSettings}
    (h : ofSetting? (.table es) = some s) :
    orDefault ({} : RuleCacheSettings).listTtlSeconds asWord64?
      (entryIfAny "list_cache_ttl_secs" es) = some s.listTtlSeconds ∧
    orDefault ({} : RuleCacheSettings).ruleTtlSeconds asWord64?
      (entryIfAny "rule_cache_ttl_secs" es) = some s.ruleTtlSeconds := by
  obtain ⟨list, hlist, h⟩ := Option.bind_eq_some_iff.mp h
  obtain ⟨rule, hrule, h⟩ := Option.bind_eq_some_iff.mp h
  cases h
  exact ⟨hlist, hrule⟩

theorem Settings.of_ofSetting? {es : List (String × Setting)} {s : Settings}
    (h : ofSetting? (.table es) = some s) :
    orDefault ({} : Settings).serviceName asText? (entryIfAny "service_name" es) =
      some s.serviceName ∧
    orDefault ({} : Settings).environment asText? (entryIfAny "environment" es) =
      some s.environment ∧
    orDefault ({} : Settings).server ServerSettings.ofSetting? (entryIfAny "server" es) =
      some s.server ∧
    orDefault ({} : Settings).database DatabaseSettings.ofSetting? (entryIfAny "database" es) =
      some s.database ∧
    orDefault ({} : Settings).redis RedisSettings.ofSetting? (entryIfAny "redis" es) =
      some s.redis ∧
    orDefault ({} : Settings).observability ObservabilitySettings.ofSetting?
      (entryIfAny "observability" es) = some s.observability ∧
    orDefault ({} : Settings).rules RuleCacheSettings.ofSetting? (entryIfAny "rules" es) =
      some s.rules := by
  obtain ⟨name, hname, h⟩ := Option.bind_eq_some_iff.mp h
  obtain ⟨environment, henvironment, h⟩ := Option.bind_eq_some_iff.mp h
  obtain ⟨server, hserver, h⟩ := Option.bind_eq_some_iff.mp h
  obtain ⟨database, hdatabase, h⟩ := Option.bind_eq_some_iff.mp h
  obtain ⟨redis, hredis, h⟩ := Option.bind_eq_some_iff.mp h
  obtain ⟨observability, hobservability, h⟩ := Option.bind_eq_some_iff.mp h
  obtain ⟨rules, hrules, h⟩ := Option.bind_eq_some_iff.mp h
  cases h
  exact ⟨hname, henvironment, hserver, hdatabase, hredis, hobservability, hrules⟩

/-! ## Reading leaves -/

namespace Settings

/-- That what is laid so far is a table, and what stands in it for a section is one. -/
structure Sectioned (root : Setting) : Prop where
  table : ∃ es, root = .table es
  sections : ∀ part ∈ sectionNames, ∀ v, entryIfAny part root.entries = some v →
    ∃ inner, v = .table inner

/-- A field is read from the value at its path, if a section that is a table is read field by
field. -/
theorem orDefault_section {β γ : Type} {standard x : β} {ofSetting? : Setting → Option β}
    {part name : String} {es : List (String × Setting)} {field : β → γ} {read : Setting → Option γ}
    (htable : ∀ v, entryIfAny part es = some v → ∃ inner, v = .table inner)
    (hsection : orDefault standard ofSetting? (entryIfAny part es) = some x)
    (hfield : ∀ inner, ofSetting? (.table inner) = some x →
      orDefault (field standard) read (entryIfAny name inner) = some (field x)) :
    orDefault (field standard) read (value? [part, name] (.table es)) = some (field x) := by
  show orDefault (field standard) read ((entryIfAny part es).bind (value? [name])) = _
  cases hpart : entryIfAny part es with
  | none =>
    rw [hpart] at hsection
    exact congrArg (some ∘ field) (Option.some.inj hsection)
  | some v =>
    obtain ⟨inner, rfl⟩ := htable v hpart
    rw [hpart] at hsection
    have hinner := hfield inner hsection
    show orDefault (field standard) read ((entryIfAny name inner).bind some) = _
    rw [Option.bind_fun_some]
    exact hinner

/-- **Each leaf** of settings is read from the value at its path, or has its default. -/
theorem Leaf.of_ofSetting? {α : Type} {root : Setting} {s : Settings} (hroot : Sectioned root)
    (h : ofSetting? root = some s) (l : Leaf α) :
    orDefault l.standard l.read? (value? l.path root) = some (l.get s) := by
  obtain ⟨es, rfl⟩ := hroot.table
  obtain ⟨hname, henvironment, hserver, hdatabase, hredis, hobservability, hrules⟩ :=
    Settings.of_ofSetting? h
  have htable := hroot.sections
  cases l with
  | serviceName =>
    show orDefault _ asText? ((entryIfAny "service_name" es).bind some) = _
    rw [Option.bind_fun_some]
    exact hname
  | environment =>
    show orDefault _ asText? ((entryIfAny "environment" es).bind some) = _
    rw [Option.bind_fun_some]
    exact henvironment
  | host =>
    exact orDefault_section (htable "server" (by decide)) hserver
      fun inner hinner => (ServerSettings.of_ofSetting? hinner).1
  | port =>
    exact orDefault_section (htable "server" (by decide)) hserver
      fun inner hinner => (ServerSettings.of_ofSetting? hinner).2.1
  | maxMessageBytes =>
    exact orDefault_section (htable "server" (by decide)) hserver
      fun inner hinner => (ServerSettings.of_ofSetting? hinner).2.2
  | databaseUrl =>
    exact orDefault_section (htable "database" (by decide)) hdatabase
      fun inner hinner => (DatabaseSettings.of_ofSetting? hinner).1
  | maxConnections =>
    exact orDefault_section (htable "database" (by decide)) hdatabase
      fun inner hinner => (DatabaseSettings.of_ofSetting? hinner).2.1
  | minConnections =>
    exact orDefault_section (htable "database" (by decide)) hdatabase
      fun inner hinner => (DatabaseSettings.of_ofSetting? hinner).2.2.1
  | connectTimeoutSeconds =>
    exact orDefault_section (htable "database" (by decide)) hdatabase
      fun inner hinner => (DatabaseSettings.of_ofSetting? hinner).2.2.2.1
  | idleTimeoutSeconds =>
    exact orDefault_section (htable "database" (by decide)) hdatabase
      fun inner hinner => (DatabaseSettings.of_ofSetting? hinner).2.2.2.2
  | redisUrl =>
    exact orDefault_section (htable "redis" (by decide)) hredis
      fun inner hinner => RedisSettings.of_ofSetting? hinner
  | reportedName =>
    exact orDefault_section (htable "observability" (by decide)) hobservability
      fun inner hinner => (ObservabilitySettings.of_ofSetting? hinner).1
  | logLevel =>
    exact orDefault_section (htable "observability" (by decide)) hobservability
      fun inner hinner => (ObservabilitySettings.of_ofSetting? hinner).2.1
  | jsonLogs =>
    exact orDefault_section (htable "observability" (by decide)) hobservability
      fun inner hinner => (ObservabilitySettings.of_ofSetting? hinner).2.2.1
  | metricsEnabled =>
    exact orDefault_section (htable "observability" (by decide)) hobservability
      fun inner hinner => (ObservabilitySettings.of_ofSetting? hinner).2.2.2.1
  | metricsPort =>
    exact orDefault_section (htable "observability" (by decide)) hobservability
      fun inner hinner => (ObservabilitySettings.of_ofSetting? hinner).2.2.2.2
  | listTtlSeconds =>
    exact orDefault_section (htable "rules" (by decide)) hrules
      fun inner hinner => (RuleCacheSettings.of_ofSetting? hinner).1
  | ruleTtlSeconds =>
    exact orDefault_section (htable "rules" (by decide)) hrules
      fun inner hinner => (RuleCacheSettings.of_ofSetting? hinner).2

end Settings

end AlertRules
