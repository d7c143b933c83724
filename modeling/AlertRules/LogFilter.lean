import AlertRules.Double.Floating
import AlertRules.Pattern
import AlertRules.Text.Alphanumeric
import AlertRules.Text.Blank
import AlertRules.Text.Search
import AlertRules.Word

/-!
# Filters of the log

A filter is a text of directives with commas between them. A directive sets a level, for everything
or for a target; it may be limited to a span and to spans with certain fields, as in
`target[span\x7bfield=value\x7d]=level`. `LogFilter.read?` refuses a text of which any directive is
not well formed. `LogFilter.text` writes the directives from the most specific on: first those on
the whole, which name no span and no field value, then those on spans. Of directives on the same
thing the last counts.
-/

namespace AlertRules

/-- How much is logged. -/
inductive LogLevel
  | off
  | error
  | warn
  | info
  | debug
  | trace
deriving DecidableEq

namespace LogLevel

/-- The levels, from the quietest on; they are also known by their numbers in this list. -/
def all : List LogLevel := [off, error, warn, info, debug, trace]

/-- The name of a level. -/
def name : LogLevel → String
  | off => "off"
  | error => "error"
  | warn => "warn"
  | info => "info"
  | debug => "debug"
  | trace => "trace"

/-- The level with a number, or with a name in any ASCII case. -/
def read? (text : String) : Option LogLevel :=
  match Text.natOfText? (UInt64.size - 1) text with
  | some n => all[n]?
  | none => all.find? fun l => l.name = text.map Char.toLower

end LogLevel

/-- A field a span must have, and the value it must have there, as it is written. -/
structure FieldFilter where
  name : String
  value : Option String
deriving DecidableEq

/-- A directive: a level, and what it is for. -/
structure LogDirective where
  level : LogLevel := .trace
  target : Option String := none
  span : Option String := none
  fields : List FieldFilter := []
deriving DecidableEq

namespace FieldFilter

/-- The written form of a value: truth values, integers and numbers as such, anything else as the
pattern it must be. -/
def valueText? (text : String) : Option String :=
  if text = "true" ∨ text = "false" then some text
  else
    match Text.natOfText? (UInt64.size - 1) text, Text.intOfText? text with
    | some n, _ => some (toString n)
    | none, some n => if FitsInt64 n ∧ n < 0 then some (toString n) else numberText? text
    | none, none => numberText? text
where
  /-- The written form of a number, or of a pattern. -/
  numberText? (text : String) : Option String :=
    match Floating.read? text with
    | some f => some f.text
    | none => (Pattern.compile? text).map fun _ => text

/-- Reads the filter of a field; what stands behind a second equals sign is passed over. -/
def read? (text : String) : Option FieldFilter :=
  match Text.split '=' text with
  | name :: value :: _ => (valueText? value).map fun v => ⟨name, some v⟩
  | name :: [] => some ⟨name, none⟩
  | [] => none

/-- The text of the filter of a field. -/
def text (f : FieldFilter) : String :=
  match f.value with
  | some v => f.name ++ "=" ++ v
  | none => f.name

end FieldFilter

namespace LogDirective

/-- Where reading a directive stands. Names and levels are kept with the place where they start. -/
inductive Stage
  | start
  | levelOrTarget (first : Nat)
  | span (first : Nat)
  | field (first : Nat)
  | fieldsDone
  | targetDone
  | level (first : Nat)

/-- The part of a text between two places. -/
def slice (cs : List Char) (first last : Nat) : String :=
  String.ofList ((cs.drop first).take (last - first))

/-- Whether a directive may start with a character. -/
def mayStart (c : Char) : Bool := c = '-' || c = ':' || c = '_' || Text.isAlphanumeric c

/-- Reads the character at a place of the text `cs` of a directive. -/
def step? (cs : List Char) (d : LogDirective) (i : Nat) (c : Char) :
    Stage → Option (LogDirective × Stage)
  | .start =>
    if c = '[' then some (d, .span (i + 1))
    else if mayStart c then some (d, .levelOrTarget i)
    else none
  | .levelOrTarget first =>
    if c = '=' then some ({ d with target := some (slice cs first i) }, .level (i + 1))
    else if c = '[' then some ({ d with target := some (slice cs first i) }, .span (i + 1))
    else some (d, .levelOrTarget first)
  | .span first =>
    if c = ']' then some ({ d with span := some (slice cs first i) }, .targetDone)
    else if c = '\x7b' then
      let name := slice cs first i
      some ({ d with span := if name.isEmpty then none else some name }, .field (i + 1))
    else some (d, .span first)
  | .field first =>
    if c = '\x7d' then
      let text := slice cs first i
      if text.isEmpty then none
      else (FieldFilter.read? text).map fun f => ({ d with fields := d.fields ++ [f] }, .fieldsDone)
    else some (d, .field first)
  | .fieldsDone => if c = ']' then some (d, .targetDone) else none
  | .targetDone => if c = '=' then some (d, .level (i + 1)) else none
  | .level first => some (d, .level first)

/-- Reads what is left of a directive, from a place on. -/
def readFrom? (cs : List Char) (d : LogDirective) (stage : Stage) (i : Nat) :
    List Char → Option (LogDirective × Stage)
  | [] => some (d, stage)
  | c :: rest => do
    let (d, stage) ← step? cs d i c stage
    readFrom? cs d stage (i + 1) rest

/-- The level a text stands for; without a text it is the fullest. -/
def levelOf? (text : String) : Option LogLevel :=
  if text.isEmpty then some .trace else LogLevel.read? text

/-- Reads a directive. Blanks around it do not count for its form, but places are counted as if they
did: what starts or ends with a blank is no level. A single word that is no level is a target. -/
def read? (text : String) : Option LogDirective := do
  let cs := text.toList
  let (d, stage) ← readFrom? cs {} .start 0 (Text.trimChars cs)
  let rest (first : Nat) : String := slice cs first cs.length
  match stage with
  | .levelOrTarget first =>
    match levelOf? (rest first) with
    | some level => return { d with level, target := none }
    | none => return { d with level := .trace, target := some (rest first) }
  | .level first => return { d with level := ← levelOf? (rest first) }
  | .targetDone => return d
  | _ => none

/-- Whether a directive depends on the span that something happens in. -/
def isDynamic (d : LogDirective) : Bool := d.span.isSome || !d.fields.isEmpty

/-- The directive on the whole that a directive stands for: one that names no span and asks for no
value of a field. -/
def toStatic? (d : LogDirective) : Option LogDirective :=
  if d.span.isSome || d.fields.any (·.value.isSome) then none else some d

/-- The text of a directive. -/
def text (d : LogDirective) : String :=
  let fields :=
    if d.fields.isEmpty then ""
    else "\x7b" ++ ",".intercalate (d.fields.map FieldFilter.text) ++ "\x7d"
  let subject :=
    d.target.getD "" ++ if d.isDynamic then "[" ++ d.span.getD "" ++ fields ++ "]" else ""
  if d.target.isNone && !d.isDynamic then d.level.name else subject ++ "=" ++ d.level.name

/-- The order of two things that may be missing; what is missing comes first. -/
def compareOptions {α : Type} (cmp : α → α → Ordering) : Option α → Option α → Ordering
  | none, none => .eq
  | none, some _ => .lt
  | some _, none => .gt
  | some a, some b => cmp a b

/-- The order of two filters of fields: those with a value come after those without. -/
def compareFields (a b : FieldFilter) : Ordering :=
  (compare a.value.isSome b.value.isSome).then
    ((compare a.name b.name).then (compareOptions compare a.value b.value))

/-- The order of two lists, by their first difference and then by length. -/
def compareLists {α : Type} (cmp : α → α → Ordering) : List α → List α → Ordering
  | [], [] => .eq
  | [], _ :: _ => .lt
  | _ :: _, [] => .gt
  | a :: as, b :: bs => (cmp a b).then (compareLists cmp as bs)

/-- How specific a directive is beside another: the longer target, a span, and more fields make it
more so; after that names decide. Levels do not count. -/
def compareSubjects (a b : LogDirective) : Ordering :=
  let targetSize (d : LogDirective) : Option Nat := d.target.map (·.utf8ByteSize)
  (compareOptions compare (targetSize a) (targetSize b)).then
    ((compare a.span.isSome b.span.isSome).then
      ((compare a.fields.length b.fields.length).then
        ((compareOptions compare a.target b.target).then
          ((compareOptions compare a.span b.span).then
            (compareLists compareFields a.fields b.fields)))))

/-- Adds a directive at its place, the most specific first, or in place of one on the same thing. -/
def insert (d : LogDirective) : List LogDirective → List LogDirective
  | [] => [d]
  | e :: rest =>
    match compareSubjects d e with
    | .gt => d :: e :: rest
    | .eq => d :: rest
    | .lt => e :: insert d rest

/-- Directives in order, the most specific first. -/
def sort (ds : List LogDirective) : List LogDirective :=
  ds.foldl (fun sorted d => insert d sorted) []

end LogDirective

/-- A filter of the log: directives on the whole, and directives on spans. -/
structure LogFilter where
  onAll : List LogDirective
  onSpans : List LogDirective

namespace LogFilter

/-- The filter of some directives. -/
def ofDirectives (ds : List LogDirective) : LogFilter where
  onAll := LogDirective.sort
    ((ds.filter fun d => !d.isDynamic) ++ (ds.filter (·.isDynamic))
      |>.filterMap LogDirective.toStatic?)
  onSpans := LogDirective.sort (ds.filter (·.isDynamic))

/-- Reads a filter. An empty text is a filter without directives. -/
def read? (text : String) : Option LogFilter := do
  if text.isEmpty then return ofDirectives []
  return ofDirectives (← (Text.split ',' text).mapM LogDirective.read?)

/-- The filter of a level as it is set; a text that is no filter stands for the usual level. -/
def ofLevel (text : String) : LogFilter :=
  (read? text).getD (ofDirectives [{ level := .info }])

/-- The text of a filter. -/
def text (f : LogFilter) : String :=
  ",".intercalate ((f.onAll ++ f.onSpans).map LogDirective.text)

end LogFilter

end AlertRules
