import AlertRules.Json.Token
import AlertRules.Pattern.Flags
import AlertRules.Text.Script

/-!
# Escapes and single characters

An atom is what one character or one escape of a pattern stands for, before flags are looked at.
-/

namespace AlertRules.Pattern

open Text

/-- A kind of characters with an escape of one letter. -/
inductive CharKind
  | digit
  | space
  | word
deriving DecidableEq

/-- A place a pattern can ask for. -/
inductive Place
  | lineStart
  | lineEnd
  | textStart
  | textEnd
  | word (edge : WordEdge)
deriving DecidableEq

/-- What a character or an escape stands for. A literal knows whether it was written as two
hexadecimal digits, which in ASCII mode are a byte. -/
inductive Atom
  | literal (c : Char) (isByte : Bool)
  | kind (k : CharKind) (negated : Bool)
  | property (s : CharSet) (negated : Bool)
  | place (p : Place)
deriving DecidableEq

namespace Atom

/-- The literal with a code point. -/
def ofCode? (isByte : Bool) (n : Nat) : Option Atom :=
  if n.isValidChar then some (literal (Char.ofNat n) isByte) else none

/-- Reads a fixed count of hexadecimal digits. -/
def scanHex? (verbose : Bool) : (count value : Nat) → List Char → Option (Nat × List Char)
  | 0, value, cs => some (value, cs)
  | _ + 1, _, [] => none
  | count + 1, value, c :: rest => do
    let d ← Json.hexValue? c
    scanHex? verbose count (16 * value + d) (skip verbose rest)

/-- Reads the digits of a numeric escape: so many, or any number of them in braces. -/
def scanCode? (verbose : Bool) (count : Nat) (cs : List Char) : Option (Atom × List Char) := do
  match skip verbose cs with
  | '\x7b' :: rest =>
    let (inside, rest) ← takeBraced verbose false rest
    let digits ← inside.mapM Json.hexValue?
    if digits = [] then none
    else return (← ofCode? false (digits.foldl (fun n d => 16 * n + d) 0), rest)
  | rest =>
    let (n, rest) ← scanHex? verbose count 0 rest
    return (← ofCode? (count = 2) n, rest)

/-- Splits a list at the first occurrence of a separator. -/
def splitAtFirst? (separator : List Char) : List Char → Option (List Char × List Char)
  | [] => none
  | c :: rest =>
    if separator.isPrefixOf (c :: rest) then some ([], (c :: rest).drop separator.length)
    else (splitAtFirst? separator rest).map fun (before, after) => (c :: before, after)

/-- The characters a bare name stands for: those with a property, of a category, or of a script.
Three short names are taken by categories. -/
def named? (name : List Char) : Option CharSet :=
  let n := looseName (String.ofList name)
  (if n = "cf" ∨ n = "sc" ∨ n = "lc" then none else Property.find? n) <|>
    Category.find? n <|> Script.find? n

/-- The characters for which something has the given value. -/
def valued? (name value : List Char) : Option CharSet :=
  let v := looseName (String.ofList value)
  match looseName (String.ofList name) with
  | "gc" | "generalcategory" => Category.find? v
  | "sc" | "script" => Script.find? v
  | "scx" | "scriptextensions" => Script.findExtended? v
  | _ => none

/-- The property that stands in braces. -/
def propertyOf? (negated : Bool) (inside : List Char) : Option Atom :=
  match splitAtFirst? ['!', '='] inside with
  | some (name, value) => (valued? name value).map (property · !negated)
  | none =>
    match splitAtFirst? [':'] inside <|> splitAtFirst? ['='] inside with
    | some (name, value) => (valued? name value).map (property · negated)
    | none => (named? inside).map (property · negated)

/-- Reads the name of a property: one letter, or any name in braces. -/
def scanProperty? (verbose negated : Bool) (cs : List Char) : Option (Atom × List Char) := do
  match skip verbose cs with
  | [] => none
  | '\x7b' :: rest =>
    let (inside, rest) ← takeBraced verbose false rest
    return (← propertyOf? negated inside, rest)
  | c :: rest =>
    if c = '\\' then none else return (property (← named? [c]) negated, rest)

/-- Reads what follows `\b`: nothing, or in braces which edge of a word is meant. Braces that do not
start with a letter or hyphen are something else. -/
def scanWordEdge? (verbose : Bool) (cs : List Char) : Option (WordEdge × List Char) :=
  match cs with
  | '\x7b' :: rest =>
    match skip verbose rest with
    | [] => none
    | c :: _ =>
      if c.isAlpha ∨ c = '-' then do
        let (inside, rest) ← takeBraced verbose false rest
        match String.ofList inside with
        | "start" => some (.start, rest)
        | "end" => some (.stop, rest)
        | "start-half" => some (.startHalf, rest)
        | "end-half" => some (.endHalf, rest)
        | _ => none
      else some (.present, cs)
  | _ => some (.present, cs)

/-- Reads an escape, from behind its backslash. -/
def scanEscape? (verbose : Bool) : List Char → Option (Atom × List Char)
  | [] => none
  | c :: rest =>
    match c with
    | 'x' => scanCode? verbose 2 rest
    | 'u' => scanCode? verbose 4 rest
    | 'U' => scanCode? verbose 8 rest
    | 'p' => scanProperty? verbose false rest
    | 'P' => scanProperty? verbose true rest
    | 'd' => some (kind .digit false, rest)
    | 'D' => some (kind .digit true, rest)
    | 's' => some (kind .space false, rest)
    | 'S' => some (kind .space true, rest)
    | 'w' => some (kind .word false, rest)
    | 'W' => some (kind .word true, rest)
    | 'a' => some (literal (Char.ofNat 0x07) false, rest)
    | 'f' => some (literal (Char.ofNat 0x0c) false, rest)
    | 't' => some (literal '\t' false, rest)
    | 'n' => some (literal '\n' false, rest)
    | 'r' => some (literal '\r' false, rest)
    | 'v' => some (literal (Char.ofNat 0x0b) false, rest)
    | 'A' => some (place .textStart, rest)
    | 'z' => some (place .textEnd, rest)
    | 'b' => (scanWordEdge? verbose rest).map fun (edge, rest) => (place (.word edge), rest)
    | 'B' => some (place (.word .absent), rest)
    | '<' => some (place (.word .start), rest)
    | '>' => some (place (.word .stop), rest)
    | _ => if c.toNat < 0x80 ∧ !c.isAlphanum then some (literal c false, rest) else none

/-- The code point of a literal. In ASCII mode a byte beyond ASCII is no character. -/
def code? (f : Flags) (c : Char) (isByte : Bool) : Option Nat :=
  if f.ascii ∧ isByte ∧ 0x80 ≤ c.toNat then none else some c.toNat

/-- The characters an atom stands for, if it stands for characters. -/
def chars? (f : Flags) : Atom → Option CharSet
  | literal c isByte => (code? f c isByte).map CharSet.singleton
  | kind .digit negated => f.negate? negated (digitChars f.ascii)
  | kind .space negated => f.negate? negated (spaceChars f.ascii)
  | kind .word negated => f.negate? negated (wordChars f.ascii)
  | property s negated => if f.ascii then none else f.negate? negated (f.fold s)
  | place _ => none

/-- The property of places that is asked for. -/
def lookOf (f : Flags) : Place → Look
  | .lineStart => if f.multiLine then .lineStart f.crlf else .textStart
  | .lineEnd => if f.multiLine then .lineEnd f.crlf else .textEnd
  | .textStart => .textStart
  | .textEnd => .textEnd
  | .word edge => .word edge f.ascii

/-- The expression an atom stands for outside brackets. -/
def regex? (f : Flags) : Atom → Option Regex
  | place p => some (.look (lookOf f p))
  | literal c isByte => do
    let n ← code? f c isByte
    return .oneOf (if f.ascii ∧ 0x80 ≤ n then .singleton n else f.fold (.singleton n))
  | a => (a.chars? f).map .oneOf

end Atom

end AlertRules.Pattern
