import AlertRules.Pattern.Bracket
import AlertRules.Text.Alphanumeric

/-!
# Reading patterns

`Regex.read?` reads the text of a pattern. Groups that are open wait on a stack while what is inside
them is read; each round takes at least one character. A part of a pattern is kept with its depth,
which may not go beyond `maxDepth`, and with whether it only sets flags: such a part cannot be
repeated.
-/

namespace AlertRules.Pattern

open Text

/-- How deep the groups, classes, repetitions, sequences and choices of a pattern may nest. -/
def maxDepth : Nat := 250

/-- A part of a pattern. -/
structure Part where
  regex : Regex
  depth : Nat
  setsFlags : Bool := false

/-- What has been read inside one group: the flags in force, the parts of the branch being read and
the finished branches, each last first. -/
structure Level where
  flags : Flags
  parts : List Part
  branches : List Part

/-- A group that is open: the level around it, and whether it captures. -/
structure OpenGroup where
  around : Level
  captures : Bool

namespace Part

/-- The depth of something made of parts. -/
def depthAround (parts : List Part) : Nat := 1 + parts.foldl (fun n p => max n p.depth) 0

/-- The part made of parts one after the other, which come last first. -/
def sequenceOf (parts : List Part) : Part :=
  match parts with
  | [] => ⟨.empty, 0, false⟩
  | [p] => ⟨p.regex, p.depth, false⟩
  | _ => ⟨.sequence (parts.reverse.map (·.regex)), depthAround parts, false⟩

end Part

namespace Level

/-- The level with one more part. -/
def add (l : Level) (p : Part) : Level := { l with parts := p :: l.parts }

/-- The level with its branch finished. -/
def endBranch (l : Level) : Level :=
  { l with parts := [], branches := .sequenceOf l.parts :: l.branches }

/-- All that was read in a level. -/
def finish (l : Level) : Part :=
  let last := Part.sequenceOf l.parts
  match l.branches with
  | [] => last
  | _ =>
    let branches := last :: l.branches
    ⟨.choice (branches.reverse.map (·.regex)), Part.depthAround branches, false⟩

/-- Repeats the last part. Nothing, or flags, cannot be repeated. -/
def repeatLast? (l : Level) (least : Nat) (most : Option Nat) : Option Level :=
  match l.parts with
  | [] => none
  | p :: before =>
    if p.setsFlags then none
    else some { l with parts := ⟨.repeatOf p.regex least most, p.depth + 1, false⟩ :: before }

end Level

/-- Whether a character may stand in the name of a group. -/
def isNameChar (first : Bool) (c : Char) : Bool :=
  c = '_' || isAlphabetic c || (!first && (c = '.' || c = '[' || c = ']' || isAlphanumeric c))

/-- Reads the name of a group, up to its closing angle. -/
def scanGroupName? (names : List String) (cs : List Char) : Option (String × List Char) := do
  let name := cs.takeWhile (· ≠ '>')
  match name, cs.drop name.length with
  | first :: others, _ :: rest =>
    let text := String.ofList name
    if isNameChar true first ∧ others.all (isNameChar false) ∧ ¬names.contains text then
      return (text, rest)
    else none
  | _, _ => none

/-- The number written between braces or commas, with white space around it. It must fit 32 bits. -/
def count? (cs : List Char) : Option Nat :=
  let digits := trimChars cs
  if areDigits digits ∧ natOfDigits digits < UInt32.size then some (natOfDigits digits) else none

/-- The bounds written between the braces of a repetition. -/
def bounds? (inside : List Char) : Option (Nat × Option Nat) := do
  let least ← count? (inside.takeWhile (· ≠ ','))
  match inside.dropWhile (· ≠ ',') with
  | [] => return (least, some least)
  | _ :: [] => return (least, none)
  | _ :: most =>
    let most ← count? most
    if least ≤ most then return (least, some most) else none

/-- Drops the mark that makes a repetition lazy. -/
def dropLazy : List Char → List Char
  | '?' :: rest => rest
  | cs => cs

/-- What reading a pattern has come to. -/
structure Progress where
  outer : List OpenGroup
  level : Level
  names : List String

/-- Goes into a group whose flags are given. -/
def Progress.enter (p : Progress) (flags : Flags) (captures : Bool) : Progress :=
  { p with outer := ⟨p.level, captures⟩ :: p.outer, level := ⟨flags, [], []⟩ }

/-- Reads the start of a group, from behind its parenthesis, or a setting of flags. -/
def openGroup? (p : Progress) (cs : List Char) : Option (Progress × List Char) :=
  let flags := p.level.flags
  match skip flags.verbose cs with
  | '?' :: '=' :: _ | '?' :: '!' :: _ | '?' :: '<' :: '=' :: _ | '?' :: '<' :: '!' :: _ => none
  | '?' :: 'P' :: '<' :: rest | '?' :: '<' :: rest => do
    let (name, rest) ← scanGroupName? p.names rest
    return ({ p with names := name :: p.names }.enter flags true, rest)
  | '?' :: rest => do
    match ← Flags.scan? [] flags rest with
    | (flags, _, ':' :: rest) => return (p.enter flags false, rest)
    | (flags, seen, _ :: rest) =>
      if seen.isEmpty then none
      else return ({ p with level := { p.level with flags }.add ⟨.empty, 0, true⟩ }, rest)
    | _ => none
  | rest => some (p.enter flags true, rest)

/-- Leaves the innermost group. -/
def closeGroup? (p : Progress) : Option Progress :=
  match p.outer with
  | [] => none
  | g :: outer =>
    let inside := p.level.finish
    let regex := if g.captures then .capture inside.regex else inside.regex
    some { p with outer, level := g.around.add ⟨regex, inside.depth + 1, false⟩ }

/-- Reads one part of a pattern, or the sign that opens or closes something. -/
def readNext? (p : Progress) (c : Char) (rest : List Char) : Option (Progress × List Char) := do
  let flags := p.level.flags
  let addAtom (a : Atom) : Option Progress := do
    return { p with level := p.level.add ⟨← a.regex? flags, 0, false⟩ }
  let repeated (least : Nat) (most : Option Nat) : Option Progress := do
    return { p with level := ← p.level.repeatLast? least most }
  match c with
  | '(' => openGroup? p rest
  | ')' => return (← closeGroup? p, rest)
  | '|' => return ({ p with level := p.level.endBranch }, rest)
  | '[' =>
    let (part, rest) ← scanClass? flags rest
    return ({ p with level := p.level.add ⟨.oneOf part.chars, part.depth, false⟩ }, rest)
  | '?' => return (← repeated 0 (some 1), dropLazy rest)
  | '*' => return (← repeated 0 none, dropLazy rest)
  | '+' => return (← repeated 1 none, dropLazy rest)
  | '\x7b' =>
    let (inside, rest) ← takeBraced flags.verbose false rest
    let (least, most) ← bounds? inside
    return (← repeated least most, dropLazy (skip flags.verbose rest))
  | '\\' =>
    let (atom, rest) ← Atom.scanEscape? flags.verbose rest
    return (← addAtom atom, rest)
  | '.' =>
    let chars ← flags.dot?
    return ({ p with level := p.level.add ⟨.oneOf chars, 0, false⟩ }, rest)
  | '^' => return (← addAtom (.place .lineStart), rest)
  | '$' => return (← addAtom (.place .lineEnd), rest)
  | c => return (← addAtom (.literal c false), rest)

/-- Reads the rest of a pattern. -/
def readFrom? : (fuel : Nat) → Progress → List Char → Option Part
  | 0, _, _ => none
  | fuel + 1, p, cs => do
    match skip p.level.flags.verbose cs with
    | [] => if p.outer.isEmpty then return p.level.finish else none
    | c :: rest =>
      let (p, rest) ← readNext? p c rest
      readFrom? fuel p rest

/-- The expression of a pattern, if it is well formed and not too deep. -/
def Regex.read? (pattern : String) : Option Regex := do
  let cs := pattern.toList
  let part ← readFrom? (cs.length + 1) ⟨[], ⟨{}, [], []⟩, []⟩ cs
  if part.depth ≤ maxDepth then return part.regex else none

end AlertRules.Pattern
