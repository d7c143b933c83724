/-!
# Severities

How grave it is when a rule matches. Names are in capitals; reading a name someone typed takes any
ASCII case.
-/

namespace AlertRules

/-- How grave a match is. -/
inductive Severity
  | info
  | warning
  | error
  | critical
deriving DecidableEq

namespace Severity

/-- The severities, from the mildest up. -/
def all : List Severity := [info, warning, error, critical]

/-- The name of a severity. -/
def name : Severity → String
  | info => "INFO"
  | warning => "WARNING"
  | error => "ERROR"
  | critical => "CRITICAL"

/-- The severity with exactly this name. -/
def ofName? (s : String) : Option Severity := all.find? fun v => v.name = s

/-- Reads a name in any ASCII case, or says that there is no such severity. -/
def read (s : String) : Except String Severity :=
  let upper := s.map Char.toUpper
  match ofName? upper with
  | some v => .ok v
  | none => .error ("未知的告警级别: " ++ upper)

/-- The number of a severity in messages. -/
def number : Severity → Int
  | info => 0
  | warning => 1
  | error => 2
  | critical => 3

/-- The severity with a number. -/
def ofNumber? (n : Int) : Option Severity := all.find? fun v => v.number = n

end Severity

end AlertRules
