import AlertRules.Json.Number

/-!
# Tokens of JSON texts

`tokens?` splits a text into brackets, commas, colons, keywords, numbers and quoted texts. A
quoted text whose escapes are not well paired, and a number that is out of range, are still
tokens: whether anyone minds is decided where the value is used.
-/

namespace AlertRules.Json

/-- A token. A quoted text is `none` when its escapes leave half of a surrogate pair, a number is
`none` when it is too large for a double. -/
inductive Token
  | arrayOpen
  | arrayClose
  | objectOpen
  | objectClose
  | comma
  | colon
  | null
  | bool (b : Bool)
  | number (n : Option Number)
  | string (s : Option String)
deriving DecidableEq

/-- A piece of a quoted text: a character as it stands, or the 16-bit unit of a numeric escape. -/
inductive Piece
  | char (c : Char)
  | unit (n : Nat)
deriving DecidableEq

/-- The value of a hexadecimal digit. -/
def hexValue? (c : Char) : Option Nat :=
  if '0' ≤ c ∧ c ≤ '9' then some (c.toNat - '0'.toNat)
  else if 'a' ≤ c ∧ c ≤ 'f' then some (c.toNat - 'a'.toNat + 10)
  else if 'A' ≤ c ∧ c ≤ 'F' then some (c.toNat - 'A'.toNat + 10)
  else none

/-- The value of four hexadecimal digits. -/
def hexUnit? (a b c d : Char) : Option Nat := do
  return (((← hexValue? a) * 16 + (← hexValue? b)) * 16 + (← hexValue? c)) * 16 + (← hexValue? d)

/-- The character of a one-letter escape. -/
def shortEscape? : Char → Option Char
  | '"' => some '"'
  | '\\' => some '\\'
  | '/' => some '/'
  | 'b' => some (Char.ofNat 0x08)
  | 'f' => some (Char.ofNat 0x0c)
  | 'n' => some '\n'
  | 'r' => some '\r'
  | 't' => some '\t'
  | _ => none

/-- The pieces of a quoted text up to its closing quotation mark, and what follows it. Control
characters must be escaped. -/
def scanString : List Char → Option (List Piece × List Char)
  | [] => none
  | '"' :: rest => some ([], rest)
  | '\\' :: 'u' :: a :: b :: c :: d :: rest => do
    let n ← hexUnit? a b c d
    let (pieces, after) ← scanString rest
    return (.unit n :: pieces, after)
  | '\\' :: e :: rest => do
    let c ← shortEscape? e
    let (pieces, after) ← scanString rest
    return (.char c :: pieces, after)
  | c :: rest =>
    if c.toNat < 0x20 ∨ c = '\\' then none
    else do
      let (pieces, after) ← scanString rest
      return (.char c :: pieces, after)

/-- Whether a 16-bit unit is the first half of a surrogate pair. -/
def isHighHalf (n : Nat) : Bool := 0xd800 ≤ n ∧ n < 0xdc00

/-- Whether a 16-bit unit is the second half of a surrogate pair. -/
def isLowHalf (n : Nat) : Bool := 0xdc00 ≤ n ∧ n < 0xe000

/-- The characters of a quoted text, if the halves of surrogate pairs come in pairs. -/
def charsOfPieces? : List Piece → Option (List Char)
  | [] => some []
  | .char c :: rest => (charsOfPieces? rest).map (c :: ·)
  | [.unit a] => if isHighHalf a ∨ isLowHalf a then none else some [Char.ofNat a]
  | .unit a :: .unit b :: rest =>
    if isHighHalf a then
      if isLowHalf b then
        (charsOfPieces? rest).map
          (Char.ofNat ((a - 0xd800) * 0x400 + (b - 0xdc00) + 0x10000) :: ·)
      else none
    else if isLowHalf a then none
    else (charsOfPieces? (.unit b :: rest)).map (Char.ofNat a :: ·)
  | .unit a :: .char c :: rest =>
    if isHighHalf a ∨ isLowHalf a then none
    else (charsOfPieces? rest).map fun more => Char.ofNat a :: c :: more

/-- The values of decimal digits. -/
def digitValues (cs : List Char) : List Nat := cs.map fun c => c.toNat - '0'.toNat

/-- The digits after a point, if there is one; at least one digit must follow it. -/
def scanFraction (cs : List Char) : Option (Option (List Nat) × List Char) :=
  match cs with
  | '.' :: rest =>
    let digits := rest.takeWhile Char.isDigit
    if digits = [] then none else some (some (digitValues digits), rest.dropWhile Char.isDigit)
  | _ => some (none, cs)

/-- The sign of an exponent and what follows it. -/
def scanSign (cs : List Char) : Bool × List Char :=
  match cs with
  | '-' :: rest => (true, rest)
  | '+' :: rest => (false, rest)
  | _ => (false, cs)

/-- The exponent, if there is one; it has at least one digit. -/
def scanExponent (cs : List Char) : Option (Option (Bool × List Nat) × List Char) :=
  match cs with
  | e :: rest =>
    if e = 'e' ∨ e = 'E' then
      let (negative, after) := scanSign rest
      let digits := after.takeWhile Char.isDigit
      if digits = [] then none
      else some (some (negative, digitValues digits), after.dropWhile Char.isDigit)
    else some (none, cs)
  | [] => some (none, cs)

/-- A number whose sign has been read, and what follows it. A zero stands alone before the point. -/
def scanNumeral (negative : Bool) (cs : List Char) : Option (Numeral × List Char) :=
  let whole := cs.takeWhile Char.isDigit
  if whole = [] ∨ (whole.head? = some '0' ∧ whole ≠ ['0']) then none
  else do
    let (fraction, afterFraction) ← scanFraction (cs.dropWhile Char.isDigit)
    let (exponent, after) ← scanExponent afterFraction
    return (⟨negative, digitValues whole, fraction, exponent⟩, after)

/-- The first token of a text and what follows it. Blanks before it are not allowed. -/
def firstToken? : List Char → Option (Token × List Char)
  | '[' :: rest => some (.arrayOpen, rest)
  | ']' :: rest => some (.arrayClose, rest)
  | '\x7b' :: rest => some (.objectOpen, rest)
  | '\x7d' :: rest => some (.objectClose, rest)
  | ',' :: rest => some (.comma, rest)
  | ':' :: rest => some (.colon, rest)
  | 'n' :: 'u' :: 'l' :: 'l' :: rest => some (.null, rest)
  | 't' :: 'r' :: 'u' :: 'e' :: rest => some (.bool true, rest)
  | 'f' :: 'a' :: 'l' :: 's' :: 'e' :: rest => some (.bool false, rest)
  | '"' :: rest => do
    let (pieces, after) ← scanString rest
    return (.string ((charsOfPieces? pieces).map String.ofList), after)
  | '-' :: rest => do
    let (numeral, after) ← scanNumeral true rest
    return (.number numeral.toNumber?, after)
  | cs => do
    let (numeral, after) ← scanNumeral false cs
    return (.number numeral.toNumber?, after)

/-- Whether a character may stand between tokens. -/
def isSpace (c : Char) : Bool := c = ' ' ∨ c = '\n' ∨ c = '\t' ∨ c = '\r'

/-- Splits a text into at most `fuel` tokens and blanks. -/
def tokensWithin : (fuel : Nat) → List Char → Option (List Token)
  | _, [] => some []
  | 0, _ :: _ => none
  | fuel + 1, c :: rest =>
    if isSpace c then tokensWithin fuel rest
    else do
      let (token, after) ← firstToken? (c :: rest)
      return token :: (← tokensWithin fuel after)

/-- The tokens of a text. Each takes at least one character, so the length of the text bounds
their number. -/
def tokens? (cs : List Char) : Option (List Token) := tokensWithin cs.length cs

end AlertRules.Json
