import AlertRules.Toml

/-!
# Building TOML tables

While a document is read its tables are still open: later lines may add to them. How a table came
about decides what may be added. One opened by its own header is not opened again, nor extended by
dotted keys; one that a header only passed through may still be opened; one made by dotted keys
grows by dotted keys alone. Values never change.
-/

namespace AlertRules.Toml

/-- How a table came about: on the way of a header, by its own header, or by dotted keys. -/
inductive Origin
  | passed
  | opened
  | dotted
deriving DecidableEq

/-- What a name stands for in a document that is being read: a value, a table, or a list of tables,
the last of them first. -/
inductive Node
  | value (v : Toml)
  | table (origin : Origin) (entries : List (String × Node))
  | tables (items : List (List (String × Node)))

/-- The entries of a table that is being read. -/
abbrev Entries := List (String × Node)

namespace Entries

/-- Changes what a name stands for, or adds it at the end; the change may be refused. -/
def alter? (name : String) (change : Option Node → Option Node) : Entries → Option Entries
  | [] => (change none).map fun n => [(name, n)]
  | (k, n) :: rest =>
    if k = name then (change (some n)).map fun n => (k, n) :: rest
    else (alter? name change rest).map ((k, n) :: ·)

/-- Goes into the table a name stands for on the way of a header, and changes it. -/
def pass? (change : Entries → Option Entries) : Option Node → Option Node
  | none => (change []).map (.table .passed)
  | some (.table origin entries) => (change entries).map (.table origin)
  | some (.tables (last :: before)) => (change last).map fun last => .tables (last :: before)
  | some _ => none

/-- Opens the table at a path. -/
def openTable? : (path : List String) → Entries → Option Entries
  | [], _ => none
  | [name], es =>
    es.alter? name fun
      | none => some (.table .opened [])
      | some (.table .passed entries) => some (.table .opened entries)
      | some _ => none
  | name :: names, es => es.alter? name (pass? (openTable? names))

/-- Opens one more table of the list at a path. -/
def openItem? : (path : List String) → Entries → Option Entries
  | [], _ => none
  | [name], es =>
    es.alter? name fun
      | none => some (.tables [[]])
      | some (.tables items) => some (.tables ([] :: items))
      | some _ => none
  | name :: names, es => es.alter? name (pass? (openItem? names))

/-- Gives a value to a dotted key. The table that gets it must be made by dotted keys, unless the
key has no dots. -/
def assign? (v : Toml) : (key : List String) → Entries → Option Entries
  | [], _ => none
  | [name], es =>
    es.alter? name fun
      | none => some (.value v)
      | some _ => none
  | name :: names, es =>
    es.alter? name fun
      | none => (assign? v names []).map (.table .dotted)
      | some (.table .dotted entries) => (assign? v names entries).map (.table .dotted)
      | some (.table .passed entries) =>
        if names.length = 1 then none else (assign? v names entries).map (.table .passed)
      | some (.tables (last :: before)) =>
        if names.length = 1 then none
        else (assign? v names last).map fun last => .tables (last :: before)
      | some _ => none

/-- Changes the open table at a path. -/
def within? (change : Entries → Option Entries) : (path : List String) → Entries → Option Entries
  | [], es => change es
  | name :: names, es => es.alter? name (pass? (within? change names))

end Entries

mutual

/-- The value a name ends up with. -/
def Node.close : Node → Toml
  | .value v => v
  | .table _ entries => .table (closeEntries entries)
  | .tables items => .array (closeItems items).reverse

/-- The entries a table ends up with. -/
def closeEntries : List (String × Node) → List (String × Toml)
  | [] => []
  | (name, n) :: rest => (name, Node.close n) :: closeEntries rest

/-- The tables of a list. -/
def closeItems : List (List (String × Node)) → List Toml
  | [] => []
  | entries :: rest => .table (closeEntries entries) :: closeItems rest

end

end AlertRules.Toml
