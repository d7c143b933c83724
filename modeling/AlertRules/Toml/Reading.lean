import AlertRules.Toml.Scalar
import AlertRules.Toml.Tree

/-!
# Reading TOML

`Toml.read?` reads a document line by line: headers open tables, and keys with values go into the
table opened last. Arrays and inline tables may run over lines.
-/

namespace AlertRules.Toml

/-- Drops a comment, from behind its sign, up to the end of its line. -/
def dropComment? : List Char → Option (List Char)
  | [] => some []
  | c :: rest =>
    if c = '\n' then some (c :: rest) else if isForbidden c then none else dropComment? rest

/-- Drops what may follow on a line, and its end. -/
def endLine? (cs : List Char) : Option (List Char) :=
  match cs.dropWhile isGap with
  | [] => some []
  | '\n' :: rest => some rest
  | '#' :: rest => (dropComment? rest).map dropNewline
  | _ => none

/-- Drops blanks, line ends and comments. -/
def skipLines? (inComment : Bool) : List Char → Option (List Char)
  | [] => some []
  | c :: rest =>
    if inComment then
      if c = '\n' then skipLines? false rest
      else if isForbidden c then none
      else skipLines? true rest
    else if isGap c || c = '\n' then skipLines? false rest
    else if c = '#' then skipLines? true rest
    else some (c :: rest)

/-- Whether a character may stand in a key without quotation marks. -/
def isKeyChar (c : Char) : Bool := c.isAlphanum || c = '_' || c = '-'

/-- Reads one name of a key. -/
def scanName? (cs : List Char) : Option (String × List Char) :=
  match cs with
  | '"' :: rest => (scanQuoted? cs.length rest).map fun (name, rest) => (String.ofList name, rest)
  | '\'' :: rest => (scanLiteral? rest).map fun (name, rest) => (String.ofList name, rest)
  | _ =>
    match cs.takeWhile isKeyChar with
    | [] => none
    | name => some (String.ofList name, cs.drop name.length)

/-- Reads a key: names with dots between them, and the blanks around it. -/
def scanKey? : (fuel : Nat) → List Char → Option (List String × List Char)
  | 0, _ => none
  | fuel + 1, cs => do
    let (name, rest) ← scanName? (cs.dropWhile isGap)
    match rest.dropWhile isGap with
    | '.' :: rest =>
      let (names, rest) ← scanKey? fuel rest
      return (name :: names, rest)
    | rest => return ([name], rest)

mutual

/-- Reads a value. -/
def scanValue? : (fuel : Nat) → List Char → Option (Toml × List Char)
  | 0, _ => none
  | fuel + 1, cs =>
    match cs with
    | '[' :: rest => do
      let (items, rest) ← scanItems? fuel (← skipLines? false rest)
      return (.array items, rest)
    | '\x7b' :: rest => do
      let (entries, rest) ← scanEntries? fuel [] (← skipLines? false rest)
      return (.table (closeEntries entries), rest)
    | '"' :: _ | '\'' :: _ =>
      (scanString? cs).map fun (s, rest) => (.string (String.ofList s), rest)
    | _ =>
      let (word, rest) := takeWord cs
      (scalar? word).map fun v => (v, rest)

/-- Reads the items of an array, up to and with its closing bracket. -/
def scanItems? : (fuel : Nat) → List Char → Option (List Toml × List Char)
  | 0, _ => none
  | fuel + 1, cs =>
    match cs with
    | ']' :: rest => some ([], rest)
    | _ => do
      let (v, rest) ← scanValue? fuel cs
      match ← skipLines? false rest with
      | ',' :: rest =>
        let (items, rest) ← scanItems? fuel (← skipLines? false rest)
        return (v :: items, rest)
      | ']' :: rest => return ([v], rest)
      | _ => none

/-- Reads the entries of an inline table, up to and with its closing brace. -/
def scanEntries? : (fuel : Nat) → Entries → List Char → Option (Entries × List Char)
  | 0, _, _ => none
  | fuel + 1, entries, cs =>
    match cs with
    | '\x7d' :: rest => some (entries, rest)
    | _ => do
      let (key, rest) ← scanKey? cs.length cs
      let '=' :: rest := rest | none
      let (v, rest) ← scanValue? fuel (rest.dropWhile isGap)
      let entries ← entries.assign? v key
      match ← skipLines? false rest with
      | ',' :: rest => scanEntries? fuel entries (← skipLines? false rest)
      | '\x7d' :: rest => return (entries, rest)
      | _ => none

end

/-- Reads the rest of a document, where `here` is the path of the table opened last. -/
def readLines? : (fuel : Nat) → (here : List String) → Entries → List Char → Option Entries
  | 0, _, _, _ => none
  | fuel + 1, here, entries, cs => do
    match ← skipLines? false cs with
    | [] => return entries
    | '[' :: '[' :: rest =>
      let (path, rest) ← scanKey? rest.length rest
      let ']' :: ']' :: rest := rest | none
      readLines? fuel path (← entries.openItem? path) (← endLine? rest)
    | '[' :: rest =>
      let (path, rest) ← scanKey? rest.length rest
      let ']' :: rest := rest | none
      readLines? fuel path (← entries.openTable? path) (← endLine? rest)
    | cs =>
      let (key, rest) ← scanKey? cs.length cs
      let '=' :: rest := rest | none
      let rest := rest.dropWhile isGap
      let (v, rest) ← scanValue? (2 * rest.length + 1) rest
      readLines? fuel here (← entries.within? (Entries.assign? v key) here) (← endLine? rest)

/-- The entries of the table a document stands for. -/
def read? (text : String) : Option (List (String × Toml)) := do
  let cs ←
    match text.toList with
    | c :: rest => if c.toNat = 0xfeff then evenLines? rest else evenLines? (c :: rest)
    | [] => some []
  return closeEntries (← readLines? (cs.length + 1) [] [] cs)

end AlertRules.Toml
