import AlertRules.Pattern.Atom

/-!
# Bracketed classes

A class in brackets is a union of characters, ranges, escapes, named classes and further brackets.
Unions may be joined by `&&`, `--` and `~~`, which all bind alike and from the left. A caret takes
the complement of the whole.

Reading keeps a stack of what is open; each round takes at least one character. Beside the set of a
class its depth is kept, because the depth of patterns is limited.
-/

namespace AlertRules.Pattern

open Text

/-- A set of characters, and how deep the class that describes it nests. -/
structure ClassPart where
  chars : CharSet
  depth : Nat

/-- A way of joining two sets. -/
inductive SetOp
  | intersection
  | difference
  | symmetricDifference
deriving DecidableEq

/-- What is open while a class is read: a bracket with the items read before it, last first, or an
operator with its left side. -/
inductive ClassFrame
  | bracket (negated : Bool) (outer : List ClassPart)
  | operator (op : SetOp) (left : ClassPart)

namespace ClassPart

/-- The union of items, last first. -/
def unionOf (items : List ClassPart) : ClassPart where
  chars := CharSet.ofRanges (items.flatMap fun p => p.chars.ranges.toList)
  depth :=
    match items with
    | [] => 0
    | [p] => p.depth
    | _ => 1 + items.foldl (fun n p => max n p.depth) 0

/-- Joins two sets. -/
def join (f : Flags) (op : SetOp) (left right : ClassPart) : ClassPart where
  chars :=
    let a := f.fold left.chars
    let b := f.fold right.chars
    match op with
    | .intersection => a.intersection b
    | .difference => a.difference b
    | .symmetricDifference => a.symmetricDifference b
  depth := 1 + max left.depth right.depth

end ClassPart

/-- The named classes of ASCII characters. -/
def namedClasses : List (String × List (Nat × Nat)) := [
  ("alnum", [(0x30, 0x39), (0x41, 0x5a), (0x61, 0x7a)]),
  ("alpha", [(0x41, 0x5a), (0x61, 0x7a)]),
  ("ascii", [(0x00, 0x7f)]),
  ("blank", [(0x09, 0x09), (0x20, 0x20)]),
  ("cntrl", [(0x00, 0x1f), (0x7f, 0x7f)]),
  ("digit", [(0x30, 0x39)]),
  ("graph", [(0x21, 0x7e)]),
  ("lower", [(0x61, 0x7a)]),
  ("print", [(0x20, 0x7e)]),
  ("punct", [(0x21, 0x2f), (0x3a, 0x40), (0x5b, 0x60), (0x7b, 0x7e)]),
  ("space", [(0x09, 0x0d), (0x20, 0x20)]),
  ("upper", [(0x41, 0x5a)]),
  ("word", [(0x30, 0x39), (0x41, 0x5a), (0x5f, 0x5f), (0x61, 0x7a)]),
  ("xdigit", [(0x30, 0x39), (0x41, 0x46), (0x61, 0x66)])]

/-- Reads the name of a named class, from behind its opening `[:`: whether it is negated, its
ranges, and the rest. Anything else is a bracket of its own. -/
def scanNamedClass? (cs : List Char) : Option (Bool × List (Nat × Nat) × List Char) := do
  let negated := cs.head? = some '^'
  let cs := if negated then cs.drop 1 else cs
  match cs.dropWhile (· ≠ ':') with
  | ':' :: ']' :: rest =>
    let ranges ← namedClasses.lookup (String.ofList (cs.takeWhile (· ≠ ':')))
    return (negated, ranges, rest)
  | _ => none

/-- Takes hyphens, each of which stands for itself. -/
def takeHyphens (verbose : Bool) : (fuel : Nat) → List Char → List ClassPart × List Char
  | fuel + 1, '-' :: rest =>
    let (items, rest) := takeHyphens verbose fuel (skip verbose rest)
    (⟨.singleton '-'.toNat, 0⟩ :: items, rest)
  | _, cs => ([], cs)

/-- Reads the start of a bracket, from behind the bracket itself: whether there is a caret, the
items that stand for themselves because they come first, and the rest. -/
def openBracket (verbose : Bool) (cs : List Char) : Bool × List ClassPart × List Char :=
  let (negated, cs) :=
    match skip verbose cs with
    | '^' :: rest => (true, skip verbose rest)
    | cs => (false, cs)
  match takeHyphens verbose cs.length cs with
  | ([], ']' :: rest) => (negated, [⟨.singleton ']'.toNat, 0⟩], skip verbose rest)
  | (items, rest) => (negated, items, rest)

/-- The character that decides whether a hyphen makes a range: the next that is not blank, where of
a comment only its sign is passed over. -/
def afterHyphen (verbose : Bool) (cs : List Char) : Option Char :=
  if !verbose then cs.head?
  else
    let ahead :=
      match cs.dropWhile isBlankChar with
      | '#' :: rest => (rest.dropWhile isBlankChar).head?
      | rest => rest.head?
    ahead <|> cs.head?

/-- Reads a character or escape of a class. -/
def scanClassAtom? (verbose : Bool) : List Char → Option (Atom × List Char)
  | [] => none
  | '\\' :: rest => Atom.scanEscape? verbose rest
  | c :: rest => some (.literal c false, rest)

/-- The code point of a literal of a class, which in ASCII mode must be ASCII. -/
def classCode? (f : Flags) : Atom → Option Nat
  | .literal c _ => if f.ascii ∧ 0x80 ≤ c.toNat then none else some c.toNat
  | _ => none

/-- The characters of one item of a class. -/
def classItem? (f : Flags) : Atom → Option CharSet
  | .literal c isByte => (classCode? f (.literal c isByte)).map .singleton
  | a => a.chars? f

/-- Reads an item of a class: a range, a character or an escape. -/
def scanClassItem? (f : Flags) (cs : List Char) : Option (ClassPart × List Char) := do
  let (first, rest) ← scanClassAtom? f.verbose cs
  match skip f.verbose rest with
  | '-' :: behind =>
    let next := afterHyphen f.verbose behind
    if next = some ']' ∨ next = some '-' then
      return (⟨← classItem? f first, 0⟩, '-' :: behind)
    else
      let (last, rest) ← scanClassAtom? f.verbose (skip f.verbose behind)
      let a ← classCode? f first
      let b ← classCode? f last
      if a ≤ b then return (⟨CharSet.ofRanges [(a, b)], 0⟩, rest) else none
  | rest => return (⟨← classItem? f first, 0⟩, rest)

/-- Closes what is open up to the innermost bracket: an operator takes the items as its right side.
Gives the part and the frames that are left. -/
def closeOperator (f : Flags) (items : List ClassPart) :
    List ClassFrame → ClassPart × List ClassFrame
  | .operator op left :: outer => (left.join f op (.unionOf items), outer)
  | stack => (.unionOf items, stack)

/-- The operator at the start of a list. -/
def setOp? : List Char → Option SetOp
  | '&' :: '&' :: _ => some .intersection
  | '-' :: '-' :: _ => some .difference
  | '~' :: '~' :: _ => some .symmetricDifference
  | _ => none

/-- Reads the rest of a class, of which `items` are read and `stack` is open. -/
def scanClassWithin? (f : Flags) : (fuel : Nat) → List ClassFrame → List ClassPart → List Char →
    Option (ClassPart × List Char)
  | 0, _, _, _ => none
  | fuel + 1, stack, items, cs => do
    let cs := skip f.verbose cs
    match setOp? cs with
    | some op =>
      let (left, outer) := closeOperator f items stack
      scanClassWithin? f fuel (.operator op left :: outer) [] (cs.drop 2)
    | none =>
      match cs with
      | [] => none
      | '[' :: rest =>
        match (if rest.head? = some ':' then scanNamedClass? (rest.drop 1) else none) with
        | some (negated, ranges, rest) =>
          let chars ← f.negate? negated (f.fold (CharSet.ofRanges ranges))
          scanClassWithin? f fuel stack (⟨chars, 0⟩ :: items) rest
        | none =>
          let (negated, first, rest) := openBracket f.verbose rest
          scanClassWithin? f fuel (.bracket negated items :: stack) first rest
      | ']' :: rest =>
        match closeOperator f items stack with
        | (part, .bracket negated outer :: below) =>
          let chars ← f.negate? negated (f.fold part.chars)
          let part : ClassPart := ⟨chars, 1 + part.depth⟩
          if below.isEmpty then return (part, rest)
          else scanClassWithin? f fuel below (part :: outer) rest
        | _ => none
      | _ =>
        let (item, rest) ← scanClassItem? f cs
        scanClassWithin? f fuel stack (item :: items) rest

/-- Reads a class, from behind its opening bracket. -/
def scanClass? (f : Flags) (cs : List Char) : Option (ClassPart × List Char) :=
  let (negated, items, rest) := openBracket f.verbose cs
  scanClassWithin? f (rest.length + 1) [.bracket negated []] items rest

end AlertRules.Pattern
