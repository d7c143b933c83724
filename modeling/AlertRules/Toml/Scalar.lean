import AlertRules.Json.Token
import AlertRules.Text.Search
import AlertRules.Timestamp
import AlertRules.Toml
import AlertRules.Word

/-!
# Scalars of TOML

Texts in quotation marks or apostrophes, on one line or on several; numbers; truth values; dates and
times. Line ends are line feeds here: `Toml.evenLines?` makes them so.
-/

namespace AlertRules.Toml

open Text

/-- Makes every line end a line feed. A carriage return must stand before a line feed. -/
def evenLines? : List Char → Option (List Char)
  | [] => some []
  | '\r' :: '\n' :: rest => (evenLines? rest).map ('\n' :: ·)
  | '\r' :: _ => none
  | c :: rest => (evenLines? rest).map (c :: ·)

/-- Whether a character is a blank inside a line. -/
def isGap (c : Char) : Bool := c = ' ' || c = '\t'

/-- Whether a character may not stand for itself in texts and comments. -/
def isForbidden (c : Char) : Bool := c ≠ '\t' && (c.toNat < 0x20 || c.toNat = 0x7f)

/-- The character with a code point of hexadecimal digits. -/
def charOfHex? (digits : List Char) : Option Char := do
  let n := (← digits.mapM Json.hexValue?).foldl (fun n d => 16 * n + d) 0
  if n.isValidChar then some (Char.ofNat n) else none

/-- The character of an escape of one letter. -/
def shortEscape? : Char → Option Char
  | '"' => some '"'
  | '\\' => some '\\'
  | 'b' => some (Char.ofNat 0x08)
  | 'e' => some (Char.ofNat 0x1b)
  | 'f' => some (Char.ofNat 0x0c)
  | 'n' => some '\n'
  | 'r' => some '\r'
  | 't' => some '\t'
  | _ => none

/-- How many hexadecimal digits follow the letter of an escape. -/
def hexLength : Char → Nat
  | 'x' => 2
  | 'u' => 4
  | 'U' => 8
  | _ => 0

/-- Reads an escape, from behind its backslash. -/
def scanEscape? : List Char → Option (Char × List Char)
  | [] => none
  | c :: rest =>
    match hexLength c with
    | 0 => (shortEscape? c).map fun d => (d, rest)
    | n =>
      if (rest.take n).length = n then (charOfHex? (rest.take n)).map fun d => (d, rest.drop n)
      else none

/-- Reads a text on one line, from behind its opening quotation mark. -/
def scanQuoted? : (fuel : Nat) → List Char → Option (List Char × List Char)
  | 0, _ | _, [] => none
  | fuel + 1, c :: rest =>
    if c = '"' then some ([], rest)
    else if c = '\\' then do
      let (d, rest) ← scanEscape? rest
      let (cs, rest) ← scanQuoted? fuel rest
      return (d :: cs, rest)
    else if isForbidden c then none
    else (scanQuoted? fuel rest).map fun (cs, rest) => (c :: cs, rest)

/-- Whether a list starts with the mark `count` times. -/
def startsWithMarks (mark : Char) (count : Nat) (cs : List Char) : Bool :=
  cs.take count == List.replicate count mark

/-- Reads the marks that may end a text on several lines: of up to five the last three end it. -/
def closing? (mark : Char) (cs : List Char) : Option (List Char × List Char) :=
  if !startsWithMarks mark 3 cs then none
  else
    let extra := if startsWithMarks mark 5 cs then 2 else if startsWithMarks mark 4 cs then 1 else 0
    some (List.replicate extra mark, cs.drop (3 + extra))

/-- Whether nothing but blanks is left of the line. -/
def isLineEnd (cs : List Char) : Bool := (cs.dropWhile isGap).head? = some '\n'

/-- Reads a text on several lines, from behind its opening marks. A backslash at the end of a line
drops the white space up to the next character. -/
def scanQuotedLines? : (fuel : Nat) → List Char → Option (List Char × List Char)
  | 0, _ => none
  | fuel + 1, cs =>
    match closing? '"' cs with
    | some done => some done
    | none =>
      match cs with
      | [] => none
      | '\\' :: rest =>
        if isLineEnd rest then
          scanQuotedLines? fuel (rest.dropWhile fun c => isGap c || c = '\n')
        else do
          let (d, rest) ← scanEscape? rest
          let (cs, rest) ← scanQuotedLines? fuel rest
          return (d :: cs, rest)
      | c :: rest =>
        if isForbidden c ∧ c ≠ '\n' then none
        else (scanQuotedLines? fuel rest).map fun (cs, rest) => (c :: cs, rest)

/-- Reads a literal text on one line, from behind its opening apostrophe. -/
def scanLiteral? : List Char → Option (List Char × List Char)
  | [] => none
  | c :: rest =>
    if c = '\'' then some ([], rest)
    else if isForbidden c then none
    else (scanLiteral? rest).map fun (cs, rest) => (c :: cs, rest)

/-- Reads a literal text on several lines, from behind its opening apostrophes. -/
def scanLiteralLines? : (fuel : Nat) → List Char → Option (List Char × List Char)
  | 0, _ => none
  | fuel + 1, cs =>
    match closing? '\'' cs with
    | some done => some done
    | none =>
      match cs with
      | [] => none
      | c :: rest =>
        if isForbidden c ∧ c ≠ '\n' then none
        else (scanLiteralLines? fuel rest).map fun (cs, rest) => (c :: cs, rest)

/-- Drops a line feed. -/
def dropNewline : List Char → List Char
  | '\n' :: rest => rest
  | cs => cs

/-- Reads a text of any form, if one starts here. -/
def scanString? (cs : List Char) : Option (List Char × List Char) :=
  if startsWithMarks '"' 3 cs then scanQuotedLines? cs.length (dropNewline (cs.drop 3))
  else if startsWithMarks '\'' 3 cs then scanLiteralLines? cs.length (dropNewline (cs.drop 3))
  else
    match cs with
    | '"' :: rest => scanQuoted? cs.length rest
    | '\'' :: rest => scanLiteral? rest
    | _ => none

/-- The digits of a number in which single underscores may stand between digits. -/
def digits? (isDigit : Char → Bool) (cs : List Char) : Option (List Char) :=
  let groups := splitChars '_' cs
  if groups.all fun g => !g.isEmpty && g.all isDigit then some groups.flatten else none

/-- The digits of a decimal number, which does not start with a needless zero. -/
def decimalDigits? (cs : List Char) : Option (List Char) := do
  let ds ← digits? Char.isDigit cs
  if ds.length ≠ 1 ∧ ds.head? = some '0' then none else return ds

/-- The number of digits to a base. -/
def natOfBase? (base : Nat) (cs : List Char) : Option Nat := do
  let ds ← digits? (fun c => (Json.hexValue? c).any (· < base)) cs
  return (← ds.mapM Json.hexValue?).foldl (fun n d => base * n + d) 0

/-- The integer a word stands for; it must fit 64 bits. -/
def integer? (word : List Char) : Option Int := do
  let n : Int ←
    match word with
    | '0' :: 'x' :: rest => (natOfBase? 16 rest).map Int.ofNat
    | '0' :: 'o' :: rest => (natOfBase? 8 rest).map Int.ofNat
    | '0' :: 'b' :: rest => (natOfBase? 2 rest).map Int.ofNat
    | _ =>
      let (negative, cs) := takeSign word
      (decimalDigits? cs).map fun ds =>
        if negative then -(natOfDigits ds : Int) else natOfDigits ds
  if FitsInt64 n then some n else none

/-- The exponent at the end of a number. -/
def exponent? : List Char → Option Int
  | [] => some 0
  | c :: rest => do
    let (negative, cs) := takeSign rest
    let ds ← digits? Char.isDigit cs
    if c = 'e' ∨ c = 'E' then
      return (if negative then -(natOfDigits ds : Int) else natOfDigits ds)
    else none

/-- The floating-point number a word stands for. One too large for a double is none. -/
def float? (word : List Char) : Option Floating := do
  let (negative, cs) := takeSign word
  match String.ofList cs with
  | "inf" => return .infinite negative
  | "nan" => return .notANumber
  | _ =>
    let isPart (c : Char) : Bool := c.isDigit || c = '_'
    let whole ← decimalDigits? (cs.takeWhile isPart)
    let (fraction, rest) ←
      match cs.dropWhile isPart with
      | '.' :: rest =>
        (digits? Char.isDigit (rest.takeWhile isPart)).map fun ds => (ds, rest.dropWhile isPart)
      | [] => none
      | rest => some ([], rest)
    let exponent ← exponent? rest
    match Floating.ofDecimal negative (natOfDigits (whole ++ fraction)) (exponent - fraction.length)
    with
    | .finite d => return .finite d
    | _ => none

/-- Reads two digits that stand for at most a bound. -/
def scanTwo? (bound : Nat) : List Char → Option (Nat × List Char)
  | a :: b :: rest =>
    if areDigits [a, b] ∧ natOfDigits [a, b] ≤ bound then some (natOfDigits [a, b], rest) else none
  | _ => none

/-- Reads a date, and gives its text. -/
def scanDate? (cs : List Char) : Option (String × List Char) := do
  let year := cs.take 4
  match cs.drop 4 with
  | '-' :: rest =>
    let (month, rest) ← scanTwo? 12 rest
    match rest with
    | '-' :: rest =>
      let (day, rest) ← scanTwo? 31 rest
      if year.length = 4 ∧ areDigits year ∧ 1 ≤ month ∧ 1 ≤ day ∧
          day ≤ Calendar.daysInMonth (natOfDigits year) month then
        return (String.ofList (cs.take 10), rest)
      else none
    | _ => none
  | _ => none

/-- The text of a fraction of a second: nine places at most, and no zeros at the end. -/
def fractionText (ds : List Char) : String :=
  match ((ds.take 9).reverse.dropWhile (· = '0')).reverse with
  | [] => ""
  | kept => "." ++ String.ofList kept

/-- Reads a time of day, and gives its text. -/
def scanTime? (cs : List Char) : Option (String × List Char) := do
  let (_, rest) ← scanTwo? 23 cs
  let ':' :: rest := rest | none
  let (_, rest) ← scanTwo? 59 rest
  let ':' :: rest := rest | none
  let (_, rest) ← scanTwo? 60 rest
  let clock := String.ofList (cs.take 8)
  match rest with
  | '.' :: rest =>
    let ds := rest.takeWhile Char.isDigit
    if ds.isEmpty then none
    else return (clock ++ fractionText ds, rest.dropWhile Char.isDigit)
  | _ => return (clock, rest)

/-- The text of a difference to UTC, or of none. -/
def zone? : List Char → Option String
  | [] => some ""
  | ['Z'] | ['z'] => some "Z"
  | sign :: rest => do
    let (_, behind) ← scanTwo? 23 rest
    let ':' :: behind := behind | none
    let (_, behind) ← scanTwo? 59 behind
    if (sign = '+' ∨ sign = '-') ∧ behind.isEmpty then return String.ofList (sign :: rest) else none

/-- The text of the date, the time or both that a word stands for. -/
def dateTime? (word : List Char) : Option String :=
  match scanDate? word with
  | none =>
    match scanTime? word with
    | some (time, []) => some time
    | _ => none
  | some (date, []) => some date
  | some (date, c :: rest) => do
    let (time, rest) ← scanTime? rest
    let zone ← zone? rest
    if c = 'T' ∨ c = 't' ∨ c = ' ' then return date ++ "T" ++ time ++ zone else none

/-- The value a word without quotation marks stands for. -/
def scalar? (word : List Char) : Option Toml :=
  match String.ofList word with
  | "true" => some (.bool true)
  | "false" => some (.bool false)
  | _ =>
    (integer? word).map .integer <|> (float? word).map .float <|> (dateTime? word).map .dateTime

/-- Whether a character ends a word. -/
def endsWord (c : Char) : Bool := isGap c || c = '\n' || c = ',' || c = ']' || c = '\x7d' || c = '#'

/-- Takes a word. One blank may part a date from a time. -/
def takeWord (cs : List Char) : List Char × List Char :=
  let word := cs.takeWhile fun c => !endsWord c
  let rest := cs.drop word.length
  match scanDate? word, rest with
  | some (_, []), ' ' :: behind =>
    if (scanTwo? 23 behind).isSome then
      let time := behind.takeWhile fun c => !endsWord c
      (word ++ ' ' :: time, behind.drop time.length)
    else (word, rest)
  | _, _ => (word, rest)

end AlertRules.Toml
