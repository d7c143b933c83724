import AlertRules.Double.Floating
import AlertRules.Settings.Codec
import AlertRules.Text.Search

/-!
# Layers of settings

Settings come in layers: what holds by default, files, and the environment. Each layer is a list of
keys with values, and values may be tables of further values. A layer is laid over those before it
entry by entry: a table goes into the table that is there, anything else takes its place. A key
names a place by the tables on the way to it, with dots between them, if it has that form; else it
is a name as it stands.

Leaves are read leniently. Numbers, truth values and texts stand for each other where their meaning
is plain.
-/

namespace AlertRules

/-- A value of a layer. A place that has been named but not filled is `absent`. -/
inductive Setting
  | absent
  | bool (b : Bool)
  | int (n : Int)
  | float (f : Floating)
  | string (s : String)
  | list (items : List Setting)
  | table (entries : List (String × Setting))

namespace Setting

/-- The entries of a table; anything else has none. -/
def entries : Setting → List (String × Setting)
  | .table entries => entries
  | _ => []

/-- The entry with a name. -/
def entry (name : String) : List (String × Setting) → Setting
  | [] => .absent
  | (k, v) :: rest => if k = name then v else entry name rest

/-- Puts an entry in place of the one with its name, or at the end. -/
def put (name : String) (v : Setting) : List (String × Setting) → List (String × Setting)
  | [] => [(name, v)]
  | (k, w) :: rest => if k = name then (k, v) :: rest else (k, w) :: put name v rest

mutual

/-- Lays a value over another. -/
def merge : (above below : Setting) → Setting
  | .table new, below => .table (mergeEntries new below.entries)
  | v, _ => v

/-- Lays entries over others. -/
def mergeEntries : (above below : List (String × Setting)) → List (String × Setting)
  | [], old => old
  | (name, v) :: rest, old => mergeEntries rest (put name (merge v (entry name old)) old)

end

/-- Lays a value over what is at a place below a root. Whatever is on the way and no table becomes
one. -/
def mergeAt : (place : List String) → (above root : Setting) → Setting
  | [], v, root => merge v root
  | name :: names, v, root =>
    .table (put name (mergeAt names v (entry name root.entries)) root.entries)

end Setting

/-- A layer: keys with values. -/
abbrev Layer := List (String × Setting)

namespace Layer

/-- Whether a character may stand in a name on the way to a place. -/
def isNameChar (c : Char) : Bool := c.isAlphanum || c = '_' || c = '-'

/-- The place a key names. -/
def place (key : String) : List String :=
  let names := Text.split '.' key
  if names.all fun name => !name.toList.isEmpty && name.toList.all isNameChar then names else [key]

/-- Lays a layer over what is there. -/
def apply (layer : Layer) (root : Setting) : Setting :=
  layer.foldl (fun root (key, v) => Setting.mergeAt (place key) v root) root

end Layer

namespace Setting

/-- Reads a leaf as a text. -/
def asText? : Setting → Option String
  | .string s => some s
  | .bool b => some (if b then "true" else "false")
  | .int n => some (toString n)
  | .float f => some f.text
  | .absent | .list _ | .table _ => none

/-- The truth value a word stands for. -/
def boolOfWord? (word : String) : Option Bool :=
  if word ∈ ["true", "on", "yes"] then some true
  else if word ∈ ["false", "off", "no"] then some false
  else none

/-- Reads a leaf as a truth value. -/
def asBool? : Setting → Option Bool
  | .bool b => some b
  | .int n => some (n ≠ 0)
  | .float f => some f.isNonzero
  | .string s =>
    match Text.toLower s with
    | "1" => some true
    | "0" => some false
    | word => boolOfWord? word
  | .absent | .list _ | .table _ => none

/-- The largest word of 64 bits. -/
def maxWord64 : Nat := UInt64.size - 1

/-- Reads a leaf as a natural number up to a bound. -/
def asNat? (bound : Nat) (v : Setting) : Option Nat := do
  let n ←
    match v with
    | .bool b => some (if b then 1 else 0)
    | .int n => if 0 ≤ n then some n.toNat else none
    | .float f => some (f.roundToNat maxWord64)
    | .string s =>
      match boolOfWord? (Text.toLower s) with
      | some b => some (if b then 1 else 0)
      | none => Text.natOfText? maxWord64 s
    | .absent | .list _ | .table _ => none
  if n ≤ bound then some n else none

/-- Reads a leaf as a word of 16 bits. -/
def asWord16? (v : Setting) : Option UInt16 := (v.asNat? (UInt16.size - 1)).map UInt16.ofNat

/-- Reads a leaf as a word of 32 bits. -/
def asWord32? (v : Setting) : Option UInt32 := (v.asNat? (UInt32.size - 1)).map UInt32.ofNat

/-- Reads a leaf as a word of 64 bits. -/
def asWord64? (v : Setting) : Option UInt64 := (v.asNat? maxWord64).map UInt64.ofNat

/-- The entry with a name, if there is one. -/
def entryIfAny (name : String) (entries : List (String × Setting)) : Option Setting :=
  (entries.find? fun e => e.1 = name).map (·.2)

/-- The fields of a record: the entries of a table, or the items of a list in the order of the
fields. -/
def fields? (names : List String) : Setting → Option (List (Option Setting))
  | .table entries => some (names.map fun name => entryIfAny name entries)
  | .list items =>
    some ((items.take names.length).map some ++ List.replicate (names.length - items.length) none)
  | _ => none

/-- Reads a field, which has a default. -/
def orDefault {α : Type} (default : α) (read : Setting → Option α) : Option Setting → Option α
  | none => some default
  | some v => read v

end Setting

/-- Reads the server section. -/
def ServerSettings.ofSetting? (v : Setting) : Option ServerSettings := do
  let standard : ServerSettings := {}
  match ← v.fields? fieldNames with
  | [host, port, maxMessageBytes] =>
    return {
      host := ← Setting.orDefault standard.host Setting.asText? host
      port := ← Setting.orDefault standard.port Setting.asWord16? port
      maxMessageBytes :=
        ← Setting.orDefault standard.maxMessageBytes Setting.asWord64? maxMessageBytes }
  | _ => none

/-- Reads the database section. -/
def DatabaseSettings.ofSetting? (v : Setting) : Option DatabaseSettings := do
  let standard : DatabaseSettings := {}
  match ← v.fields? fieldNames with
  | [url, maxConnections, minConnections, connectTimeout, idleTimeout] =>
    return {
      url := ← Setting.orDefault standard.url Setting.asText? url
      maxConnections := ← Setting.orDefault standard.maxConnections Setting.asWord32? maxConnections
      minConnections := ← Setting.orDefault standard.minConnections Setting.asWord32? minConnections
      connectTimeoutSeconds :=
        ← Setting.orDefault standard.connectTimeoutSeconds Setting.asWord64? connectTimeout
      idleTimeoutSeconds :=
        ← Setting.orDefault standard.idleTimeoutSeconds Setting.asWord64? idleTimeout }
  | _ => none

/-- Reads the cache section. -/
def RedisSettings.ofSetting? (v : Setting) : Option RedisSettings := do
  let standard : RedisSettings := {}
  match ← v.fields? fieldNames with
  | [url] => return { url := ← Setting.orDefault standard.url Setting.asText? url }
  | _ => none

/-- Reads the section of logs and metrics. -/
def ObservabilitySettings.ofSetting? (v : Setting) : Option ObservabilitySettings := do
  let standard : ObservabilitySettings := {}
  match ← v.fields? fieldNames with
  | [serviceName, logLevel, jsonLogs, metricsEnabled, metricsPort] =>
    return {
      serviceName := ← Setting.orDefault standard.serviceName Setting.asText? serviceName
      logLevel := ← Setting.orDefault standard.logLevel Setting.asText? logLevel
      jsonLogs := ← Setting.orDefault standard.jsonLogs Setting.asBool? jsonLogs
      metricsEnabled := ← Setting.orDefault standard.metricsEnabled Setting.asBool? metricsEnabled
      metricsPort := ← Setting.orDefault standard.metricsPort Setting.asWord16? metricsPort }
  | _ => none

/-- Reads the section of cached rules. -/
def RuleCacheSettings.ofSetting? (v : Setting) : Option RuleCacheSettings := do
  let standard : RuleCacheSettings := {}
  match ← v.fields? fieldNames with
  | [listTtl, ruleTtl] =>
    return {
      listTtlSeconds := ← Setting.orDefault standard.listTtlSeconds Setting.asWord64? listTtl
      ruleTtlSeconds := ← Setting.orDefault standard.ruleTtlSeconds Setting.asWord64? ruleTtl }
  | _ => none

/-- Reads settings. -/
def Settings.ofSetting? (v : Setting) : Option Settings := do
  let standard : Settings := {}
  match ← v.fields? fieldNames with
  | [serviceName, environment, server, database, redis, observability, rules] =>
    return {
      serviceName := ← Setting.orDefault standard.serviceName Setting.asText? serviceName
      environment := ← Setting.orDefault standard.environment Setting.asText? environment
      server := ← Setting.orDefault standard.server ServerSettings.ofSetting? server
      database := ← Setting.orDefault standard.database DatabaseSettings.ofSetting? database
      redis := ← Setting.orDefault standard.redis RedisSettings.ofSetting? redis
      observability :=
        ← Setting.orDefault standard.observability ObservabilitySettings.ofSetting? observability
      rules := ← Setting.orDefault standard.rules RuleCacheSettings.ofSetting? rules }
  | _ => none

end AlertRules
