import AlertRules.Settings.Layer
import AlertRules.Toml.Reading
import AlertRules.Word

/-!
# Loading settings

`Settings.load?` lays what a process is told about itself in layers, each over those before: what
holds by default, a file for all, a file for the environment the process runs in, a file for the
process, and variables of the environment. A file that is not there says nothing; one that cannot be
read, or a value of the wrong kind, makes loading fail. Last come the variables that override.
-/

namespace AlertRules

namespace Setting

mutual

/-- The setting a TOML value stands for. -/
def ofToml : Toml → Setting
  | .string s => .string s
  | .integer n => .int n
  | .float f => .float f
  | .bool b => .bool b
  | .dateTime text => .string text
  | .array items => .list (ofTomlItems items)
  | .table entries => .table (ofTomlEntries entries)

/-- The settings of the items of an array. -/
def ofTomlItems : List Toml → List Setting
  | [] => []
  | v :: rest => ofToml v :: ofTomlItems rest

/-- The settings of the entries of a table. -/
def ofTomlEntries : List (String × Toml) → List (String × Setting)
  | [] => []
  | (name, v) :: rest => (name, ofToml v) :: ofTomlEntries rest

end

/-- The setting a variable stands for: a truth value, an integer of 64 bits or a floating-point
number, if its text is one. -/
def ofVariable (text : String) : Setting :=
  match Text.toLower text with
  | "true" => .bool true
  | "false" => .bool false
  | _ =>
    match Text.intOfText? text with
    | some n => if FitsInt64 n then .int n else ofFloatText text
    | none => ofFloatText text
where
  /-- The floating-point number of a text, or the text itself. -/
  ofFloatText (text : String) : Setting :=
    match Floating.read? text with
    | some f => .float f
    | none => .string text

end Setting

/-- Replaces pairs of underscores by dots. -/
def dotPairs : List Char → List Char
  | '_' :: '_' :: rest => '.' :: dotPairs rest
  | c :: rest => c :: dotPairs rest
  | [] => []

namespace Layer

/-- What the names of variables that are settings start with. -/
def variableStart : String := "telemetryx_"

/-- The key that the name of a variable stands for, in any case of letters. -/
def keyOfVariable? (name : String) : Option String :=
  let cs := (Text.toLower name).toList
  if variableStart.toList.isPrefixOf cs then
    some (String.ofList (dotPairs (cs.drop variableStart.length)))
  else none

/-- The layer of the environment. -/
def ofVariables (env : List (String × String)) : Layer :=
  env.filterMap fun (name, text) =>
    (keyOfVariable? name).map fun key => (key, Setting.ofVariable text)

/-- The layer of a file, of which `none` is missing. -/
def ofFile? : Option String → Option Layer
  | none => some []
  | some text => (Toml.read? text).map Setting.ofTomlEntries

/-- What holds by default for a process in an environment. -/
def defaults (service environment : String) : Layer :=
  [("service_name", .string service), ("environment", .string environment),
    ("observability.service_name", .string service)]

end Layer

namespace Settings

/-- The layers for a process, the lowest first. -/
def layers? (service environment : String) (file? : String → Option String)
    (env : List (String × String)) : Option (List Layer) := do
  let general ← Layer.ofFile? (file? "default.toml")
  let specific ← Layer.ofFile? (file? (environment ++ ".toml"))
  let own ← Layer.ofFile? (file? (service ++ ".toml"))
  return [Layer.defaults service environment, general, specific, own, Layer.ofVariables env]

/-- The settings of a process, given the texts of the files that are there and the variables of its
environment. -/
def load? (service : String) (file? : String → Option String) (env : List (String × String)) :
    Option Settings := do
  let valueOf? (name : String) : Option String := env.lookup name
  let environment := (valueOf? "TELEMETRYX_ENV").getD "development"
  let layers ← layers? service environment file? env
  let settings ← ofSetting? (layers.foldl (fun root layer => layer.apply root) (.table []))
  return settings.override valueOf?

end Settings

end AlertRules
