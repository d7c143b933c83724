import AlertRules.Json.Decoding
import AlertRules.Json.Writing

/-!
# Actions

What is to be done when a rule matches: a kind of action, and settings that only the one who carries
it out understands.
-/

namespace AlertRules

open Json

/-- A kind of action. -/
inductive ActionKind
  | log
  | alert
  | webhook
deriving DecidableEq

namespace ActionKind

/-- The kinds of actions. -/
def all : List ActionKind := [log, alert, webhook]

/-- The name of a kind of action. -/
def name : ActionKind → String
  | log => "log"
  | alert => "alert"
  | webhook => "webhook"

/-- The kind of action with exactly this name. -/
def ofName? (s : String) : Option ActionKind := all.find? fun k => k.name = s

/-- Reads a name in any ASCII case, or says that there is no such kind of action. -/
def read (s : String) : Except String ActionKind :=
  let lower := s.map Char.toLower
  match ofName? lower with
  | some k => .ok k
  | none => .error ("未知的动作类型: " ++ lower)

/-- Reads a kind of action from a document. -/
def ofDocument? (limit : Nat) (d : Document) : Option ActionKind := do
  ofName? (← d.choice? limit)

end ActionKind

/-- An action: its kind, and its settings in ascending order of their names. -/
structure Action where
  kind : ActionKind
  config : List (String × Value)
deriving DecidableEq

namespace Action

/-- An action without settings. -/
def ofKind (kind : ActionKind) : Action := ⟨kind, []⟩

/-- The action with one setting set. -/
def withConfig (a : Action) (name : String) (v : Value) : Action :=
  { a with config := Value.insertField name v a.config }

/-- The document of an action. -/
def toDocument (a : Action) : Document :=
  .record [("type", .ofString a.kind.name), ("config", .ofValue (.object a.config))]

/-- Reads an action. Without `config` there are no settings. -/
def ofDocument? (limit : Nat) (d : Document) : Option Action := do
  match ← d.fields? ["type", "config"] limit with
  | (inner, [kind, config]) =>
    let kind ← Document.required (ActionKind.ofDocument? inner) kind
    let config ← Document.withDefault [] (Document.asFields? inner) config
    return ⟨kind, config⟩
  | _ => none

end Action

end AlertRules
