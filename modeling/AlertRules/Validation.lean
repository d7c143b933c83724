import AlertRules.Fault
import AlertRules.Pattern
import AlertRules.Rule
import AlertRules.Text.Blank

/-!
# Validating rules

A rule may be stored only if its name is not blank, its condition is not too deep, and every node of
the condition is well formed: none is empty, groups have children, comparisons have a field,
patterns are accepted, and membership is asked of a list. The first node that is not, parents before
children and children from left to right, is reported by its path.
-/

namespace AlertRules

open Json

/-- What rules are held to: how deep a condition may be, and which patterns are accepted. -/
structure Validator where
  maxDepth : Nat := Condition.maxDepth
  acceptsPattern : String → Bool := fun pattern => (Pattern.compile? pattern).isSome

namespace Validator

/-- Checks a comparison at a path. -/
def checkComparison (v : Validator) (path : String) (c : Comparison) : Except RuleFault Unit :=
  if Text.isBlank c.field then .error (.invalid path "比较字段不能为空")
  else
    match c.op, c.value with
    | .regex, .string pattern =>
      if v.acceptsPattern pattern then .ok () else .error (.invalid path "正则表达式无效: ")
    | .regex, _ => .error (.invalid path "regex 操作符需要字符串模式")
    | .member, .array _ => .ok ()
    | .member, _ => .error (.invalid path "in 操作符需要列表值")
    | _, _ => .ok ()

/-- The path of a child of the group at a path. -/
def childPath (path : String) (index : Nat) : String :=
  path ++ "[" ++ toString index ++ "]"

mutual

/-- Checks the condition at a path. -/
def checkCondition (v : Validator) (path : String) : Condition → Except RuleFault Unit
  | .empty => .error (.invalid path "条件不能为空")
  | .comparison c => v.checkComparison path c
  | .allOf [] => .error (.invalid (path ++ ".and") "逻辑组至少需要一个子条件")
  | .allOf (c :: rest) => checkChildren v (path ++ ".and") 0 (c :: rest)
  | .anyOf [] => .error (.invalid (path ++ ".or") "逻辑组至少需要一个子条件")
  | .anyOf (c :: rest) => checkChildren v (path ++ ".or") 0 (c :: rest)

/-- Checks children of the group at a path, from the one with the given number on. -/
def checkChildren (v : Validator) (path : String) (index : Nat) :
    List Condition → Except RuleFault Unit
  | [] => .ok ()
  | c :: rest =>
    match checkCondition v (childPath path index) c with
    | .ok () => checkChildren v path (index + 1) rest
    | .error f => .error f

end

/-- Checks a rule. -/
def check (v : Validator) (r : Rule) : Except RuleFault Unit :=
  if Text.isBlank r.name then .error (.invalid "name" "规则名称不能为空")
  else if v.maxDepth < r.condition.depth then .error (.tooDeep r.condition.depth v.maxDepth)
  else v.checkCondition "condition" r.condition

end Validator

end AlertRules
