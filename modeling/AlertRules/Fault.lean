/-!
# What can go wrong

`BackendFault` is what database, cache and configuration report; `RuleFault` is why an operation on
rules failed; `Status` is what a caller of the service is told. Each has one function for its
wording. The details that a fault carries come from the database, the cache or a reader of texts.
-/

namespace AlertRules

/-- A fault of what the rules are kept in. -/
inductive BackendFault
  | database (detail : String)
  | databaseNotConfigured
  | redis (detail : String)
  | cacheNotConfigured
  | configuration (detail : String)
  | serialization (detail : String)
deriving DecidableEq

namespace BackendFault

/-- The message of a fault. -/
def message : BackendFault → String
  | database detail => "数据库错误: " ++ detail
  | databaseNotConfigured => "数据库未配置"
  | redis detail => "Redis 错误: " ++ detail
  | cacheNotConfigured => "缓存未配置"
  | configuration detail => "配置错误: " ++ detail
  | serialization detail => "序列化错误: " ++ detail

/-- The code of a fault. -/
def code : BackendFault → String
  | database _ => "DATABASE_ERROR"
  | databaseNotConfigured => "DATABASE_NOT_CONFIGURED"
  | redis _ => "REDIS_ERROR"
  | cacheNotConfigured => "CACHE_NOT_CONFIGURED"
  | configuration _ => "CONFIG_ERROR"
  | serialization _ => "SERIALIZATION_ERROR"

/-- Whether it may help to try again: faults of a connection do not last. -/
def isRetryable : BackendFault → Bool
  | database _ | redis _ => true
  | _ => false

end BackendFault

/-- Why an operation on rules failed. -/
inductive RuleFault
  | invalid (path message : String)
  | missingId
  | tooDeep (depth limit : Nat)
  | corruptRow (id reason : String)
  | database (detail : String)
  | cache (detail : String)
  | storeUnavailable
  | serialization (detail : String)
deriving DecidableEq

namespace RuleFault

/-- The message of a fault. -/
def message : RuleFault → String
  | invalid path text => "规则校验失败: " ++ path ++ ": " ++ text
  | missingId => "规则缺少 ID"
  | tooDeep depth limit => "条件嵌套过深: 深度 " ++ toString depth ++ " 超过上限 " ++ toString limit
  | corruptRow id reason => "规则数据损坏: " ++ id ++ ": " ++ reason
  | database detail => "数据库错误: " ++ detail
  | cache detail => "缓存错误: " ++ detail
  | storeUnavailable => "规则存储不可用"
  | serialization detail => "JSON 序列化错误: " ++ detail

/-- The short reason under which a fault is counted. -/
def reason : RuleFault → String
  | invalid _ _ => "validation"
  | missingId => "missing_id"
  | tooDeep _ _ => "condition_too_deep"
  | corruptRow _ _ => "corrupt_row"
  | database _ => "database"
  | cache _ => "cache"
  | storeUnavailable => "store_unavailable"
  | serialization _ => "serialization"

/-- What a fault of the backend means for the operation that met it. -/
def ofBackend : BackendFault → RuleFault
  | .database detail => database detail
  | .databaseNotConfigured => storeUnavailable
  | .serialization detail => serialization detail
  | other => cache other.message

end RuleFault

/-- The kinds of failure a caller is told of. -/
inductive StatusCode
  | invalidArgument
  | notFound
  | unavailable
  | internal
deriving DecidableEq

/-- The name of a kind of failure. -/
def StatusCode.name : StatusCode → String
  | invalidArgument => "InvalidArgument"
  | notFound => "NotFound"
  | unavailable => "Unavailable"
  | internal => "Internal"

/-- What a caller is told when a request failed. -/
structure Status where
  code : StatusCode
  message : String
deriving DecidableEq

namespace RuleFault

/-- The kind of failure a caller is told of: what is wrong with the rule is the caller's matter, and
a store out of reach may come back. -/
def statusCode : RuleFault → StatusCode
  | invalid _ _ | missingId | tooDeep _ _ => .invalidArgument
  | database _ | storeUnavailable => .unavailable
  | corruptRow _ _ | cache _ | serialization _ => .internal

/-- What a caller is told of a fault. -/
def toStatus (f : RuleFault) : Status := ⟨f.statusCode, f.message⟩

end RuleFault

end AlertRules
