import AlertRules.Json.Decoding
import AlertRules.Json.Writing
import AlertRules.Settings

/-!
# Settings in JSON

Settings and their sections are records. Every field has a default; one that is there must be of its
kind exactly. Written settings show every field.
-/

namespace AlertRules

open Json

/-- The names of the fields of the server section. -/
def ServerSettings.fieldNames : List String := ["host", "port", "max_message_bytes"]

/-- The names of the fields of the database section. -/
def DatabaseSettings.fieldNames : List String :=
  ["url", "max_connections", "min_connections", "connect_timeout_seconds", "idle_timeout_seconds"]

/-- The names of the fields of the cache section. -/
def RedisSettings.fieldNames : List String := ["url"]

/-- The names of the fields of the section of logs and metrics. -/
def ObservabilitySettings.fieldNames : List String :=
  ["service_name", "log_level", "json_logs", "metrics_enabled", "metrics_port"]

/-- The names of the fields of the section of cached rules. -/
def RuleCacheSettings.fieldNames : List String := ["list_cache_ttl_secs", "rule_cache_ttl_secs"]

/-- The names of the fields and sections. -/
def Settings.fieldNames : List String :=
  ["service_name", "environment", "server", "database", "redis", "observability", "rules"]

/-- Reads a word of 16 bits. -/
def readWord16? (d : Document) : Option UInt16 := (d.asNatBelow? UInt16.size).map UInt16.ofNat

/-- Reads a word of 32 bits. -/
def readWord32? (d : Document) : Option UInt32 := (d.asNatBelow? UInt32.size).map UInt32.ofNat

/-- Reads a word of 64 bits. -/
def readWord64? (d : Document) : Option UInt64 := (d.asNatBelow? UInt64.size).map UInt64.ofNat

/-- Reads the server section. -/
def ServerSettings.ofDocument? (limit : Nat) (d : Document) : Option ServerSettings := do
  let standard : ServerSettings := {}
  match ← d.fields? fieldNames limit with
  | (_, [host, port, maxMessageBytes]) =>
    return {
      host := ← Document.withDefault standard.host Document.asString? host
      port := ← Document.withDefault standard.port readWord16? port
      maxMessageBytes :=
        ← Document.withDefault standard.maxMessageBytes readWord64? maxMessageBytes }
  | _ => none

/-- Reads the database section. -/
def DatabaseSettings.ofDocument? (limit : Nat) (d : Document) : Option DatabaseSettings := do
  let standard : DatabaseSettings := {}
  match ← d.fields? fieldNames limit with
  | (_, [url, maxConnections, minConnections, connectTimeout, idleTimeout]) =>
    return {
      url := ← Document.withDefault standard.url Document.asString? url
      maxConnections := ← Document.withDefault standard.maxConnections readWord32? maxConnections
      minConnections := ← Document.withDefault standard.minConnections readWord32? minConnections
      connectTimeoutSeconds :=
        ← Document.withDefault standard.connectTimeoutSeconds readWord64? connectTimeout
      idleTimeoutSeconds :=
        ← Document.withDefault standard.idleTimeoutSeconds readWord64? idleTimeout }
  | _ => none

/-- Reads the cache section. -/
def RedisSettings.ofDocument? (limit : Nat) (d : Document) : Option RedisSettings := do
  let standard : RedisSettings := {}
  match ← d.fields? fieldNames limit with
  | (_, [url]) => return { url := ← Document.withDefault standard.url Document.asString? url }
  | _ => none

/-- Reads the section of logs and metrics. -/
def ObservabilitySettings.ofDocument? (limit : Nat) (d : Document) :
    Option ObservabilitySettings := do
  let standard : ObservabilitySettings := {}
  match ← d.fields? fieldNames limit with
  | (_, [serviceName, logLevel, jsonLogs, metricsEnabled, metricsPort]) =>
    return {
      serviceName := ← Document.withDefault standard.serviceName Document.asString? serviceName
      logLevel := ← Document.withDefault standard.logLevel Document.asString? logLevel
      jsonLogs := ← Document.withDefault standard.jsonLogs Document.asBool? jsonLogs
      metricsEnabled :=
        ← Document.withDefault standard.metricsEnabled Document.asBool? metricsEnabled
      metricsPort := ← Document.withDefault standard.metricsPort readWord16? metricsPort }
  | _ => none

/-- Reads the section of cached rules. -/
def RuleCacheSettings.ofDocument? (limit : Nat) (d : Document) : Option RuleCacheSettings := do
  let standard : RuleCacheSettings := {}
  match ← d.fields? fieldNames limit with
  | (_, [listTtl, ruleTtl]) =>
    return {
      listTtlSeconds := ← Document.withDefault standard.listTtlSeconds readWord64? listTtl
      ruleTtlSeconds := ← Document.withDefault standard.ruleTtlSeconds readWord64? ruleTtl }
  | _ => none

/-- Reads settings. -/
def Settings.ofDocument? (limit : Nat) (d : Document) : Option Settings := do
  let standard : Settings := {}
  match ← d.fields? fieldNames limit with
  | (inner, [serviceName, environment, server, database, redis, observability, rules]) =>
    return {
      serviceName := ← Document.withDefault standard.serviceName Document.asString? serviceName
      environment := ← Document.withDefault standard.environment Document.asString? environment
      server := ← Document.withDefault standard.server (ServerSettings.ofDocument? inner) server
      database :=
        ← Document.withDefault standard.database (DatabaseSettings.ofDocument? inner) database
      redis := ← Document.withDefault standard.redis (RedisSettings.ofDocument? inner) redis
      observability :=
        ← Document.withDefault standard.observability
          (ObservabilitySettings.ofDocument? inner) observability
      rules := ← Document.withDefault standard.rules (RuleCacheSettings.ofDocument? inner) rules }
  | _ => none

/-- The document of the server section. -/
def ServerSettings.toDocument (s : ServerSettings) : Document :=
  .record [
    ("host", .ofString s.host),
    ("port", .ofNat s.port.toNat),
    ("max_message_bytes", .ofNat s.maxMessageBytes.toNat)]

/-- The document of the database section. -/
def DatabaseSettings.toDocument (s : DatabaseSettings) : Document :=
  .record [
    ("url", .ofString s.url),
    ("max_connections", .ofNat s.maxConnections.toNat),
    ("min_connections", .ofNat s.minConnections.toNat),
    ("connect_timeout_seconds", .ofNat s.connectTimeoutSeconds.toNat),
    ("idle_timeout_seconds", .ofNat s.idleTimeoutSeconds.toNat)]

/-- The document of the cache section. -/
def RedisSettings.toDocument (s : RedisSettings) : Document :=
  .record [("url", .ofString s.url)]

/-- The document of the section of logs and metrics. -/
def ObservabilitySettings.toDocument (s : ObservabilitySettings) : Document :=
  .record [
    ("service_name", .ofString s.serviceName),
    ("log_level", .ofString s.logLevel),
    ("json_logs", .bool s.jsonLogs),
    ("metrics_enabled", .bool s.metricsEnabled),
    ("metrics_port", .ofNat s.metricsPort.toNat)]

/-- The document of the section of cached rules. -/
def RuleCacheSettings.toDocument (s : RuleCacheSettings) : Document :=
  .record [
    ("list_cache_ttl_secs", .ofNat s.listTtlSeconds.toNat),
    ("rule_cache_ttl_secs", .ofNat s.ruleTtlSeconds.toNat)]

/-- The fields of settings and their documents. -/
def Settings.toFields (s : Settings) : List (String × Document) :=
  [("service_name", .ofString s.serviceName),
    ("environment", .ofString s.environment),
    ("server", s.server.toDocument),
    ("database", s.database.toDocument),
    ("redis", s.redis.toDocument),
    ("observability", s.observability.toDocument),
    ("rules", s.rules.toDocument)]

/-- The document of settings. -/
def Settings.toDocument (s : Settings) : Document := .record s.toFields

end AlertRules
