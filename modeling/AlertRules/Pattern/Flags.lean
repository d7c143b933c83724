import AlertRules.Pattern.Regex
import AlertRules.Text.Blank
import AlertRules.Text.Casing

/-!
# Flags of patterns

Flags hold from where they are set to the end of the group around it. This module also says what
they do to sets of characters: case is closed over first, the complement is taken after that, and in
ASCII mode a set that would hold part of a longer character is refused.
-/

namespace AlertRules.Pattern

open Text

/-- The flags in force at a place of a pattern. -/
structure Flags where
  caseless : Bool := false
  multiLine : Bool := false
  dotAll : Bool := false
  crlf : Bool := false
  verbose : Bool := false
  ascii : Bool := false
deriving DecidableEq

namespace Flags

/-- Switches the flag of a letter. Greed can be switched too, to no effect. -/
def switch? (f : Flags) (on : Bool) : Char → Option Flags
  | 'i' => some { f with caseless := on }
  | 'm' => some { f with multiLine := on }
  | 's' => some { f with dotAll := on }
  | 'R' => some { f with crlf := on }
  | 'x' => some { f with verbose := on }
  | 'u' => some { f with ascii := !on }
  | 'U' => some f
  | _ => none

/-- Reads flags up to the colon or parenthesis that ends them, which is left over. A flag may not
repeat, and a minus must have flags behind it. Also gives the letters read, last first. -/
def scan? (seen : List Char) (f : Flags) : List Char → Option (Flags × List Char × List Char)
  | [] => none
  | c :: rest =>
    if c = ':' ∨ c = ')' then
      if seen.head? = some '-' then none else some (f, seen, c :: rest)
    else if seen.contains c then none
    else if c = '-' then scan? (c :: seen) f rest
    else do
      let f ← f.switch? (!seen.contains '-') c
      scan? (c :: seen) f rest

/-- The ASCII letters of a range in the other case. -/
def otherCase (r : Nat × Nat) : List (Nat × Nat) :=
  let shifted (lo hi : Nat) (distance : Int) : List (Nat × Nat) :=
    if max r.1 lo ≤ min r.2 hi then
      [(((max r.1 lo : Nat) + distance).toNat, ((min r.2 hi : Nat) + distance).toNat)]
    else []
  shifted 0x41 0x5a 32 ++ shifted 0x61 0x7a (-32)

/-- Closes a set over case, if case does not count. -/
def fold (f : Flags) (s : CharSet) : CharSet :=
  if !f.caseless then s
  else if f.ascii then s.union (CharSet.ofRanges (s.ranges.toList.flatMap otherCase))
  else s.closeUnderCase

/-- Takes the complement of a set, if asked to. In ASCII mode it would not be ASCII. -/
def negate? (f : Flags) (negated : Bool) (s : CharSet) : Option CharSet :=
  if !negated then some s else if f.ascii then none else some s.complement

/-- The set a dot stands for. -/
def dot? (f : Flags) : Option CharSet :=
  if f.ascii then none
  else if f.dotAll then some CharSet.all
  else if f.crlf then some (CharSet.ofRanges [(0x0a, 0x0a), (0x0d, 0x0d)]).complement
  else some (CharSet.singleton 0x0a).complement

end Flags

/-- The rest of a pattern after blanks and comments; a comment goes from a number sign to the end of
its line. -/
def dropBlanks (inComment : Bool) : List Char → List Char
  | [] => []
  | c :: rest =>
    if inComment then dropBlanks (c ≠ '\n') rest
    else if isBlankChar c then dropBlanks false rest
    else if c = '#' then dropBlanks true rest
    else c :: rest

/-- The rest of a pattern from the next character that counts. Blanks and comments count unless the
pattern is verbose. -/
def skip (verbose : Bool) (cs : List Char) : List Char :=
  if verbose then dropBlanks false cs else cs

/-- What stands up to the closing brace, and what follows it. -/
def takeBraced (verbose inComment : Bool) : List Char → Option (List Char × List Char)
  | [] => none
  | c :: rest =>
    if inComment then takeBraced verbose (c ≠ '\n') rest
    else if verbose ∧ isBlankChar c then takeBraced verbose false rest
    else if verbose ∧ c = '#' then takeBraced verbose true rest
    else if c = '\x7d' then some ([], rest)
    else (takeBraced verbose false rest).map fun (inside, rest) => (c :: inside, rest)

end AlertRules.Pattern
