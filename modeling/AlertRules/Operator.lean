/-!
# Operators

The comparisons a rule can make between a field of an event and the value it expects, and the
symbols by which rules name them.
-/

namespace AlertRules

/-- A comparison operator. -/
inductive Operator
  | equal
  | notEqual
  | greater
  | greaterOrEqual
  | less
  | lessOrEqual
  | contains
  | startsWith
  | endsWith
  | regex
  | member
deriving DecidableEq

namespace Operator

/-- The operators, in the order in which they are listed. -/
def all : List Operator :=
  [equal, notEqual, greater, greaterOrEqual, less, lessOrEqual, contains, startsWith, endsWith,
    regex, member]

/-- The symbol of an operator. -/
def symbol : Operator → String
  | equal => "=="
  | notEqual => "!="
  | greater => ">"
  | greaterOrEqual => ">="
  | less => "<"
  | lessOrEqual => "<="
  | contains => "contains"
  | startsWith => "startswith"
  | endsWith => "endswith"
  | regex => "regex"
  | member => "in"

/-- The operator with a symbol. -/
def ofSymbol? (s : String) : Option Operator := all.find? fun o => o.symbol = s

end Operator

end AlertRules
