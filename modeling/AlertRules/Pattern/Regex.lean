import AlertRules.Text.CharSet
import AlertRules.Text.Category
import AlertRules.Text.Property

/-!
# Regular expressions

The meaning of a pattern once its flags are worked in: sets of characters, places in a text, and
their sequences, choices and repetitions. Greed makes no difference to whether a text matches, so
it is not kept; captures only count for the size of an expression.
-/

namespace AlertRules.Pattern

open Text

/-- What the characters around a place must be, seen as characters of words or not: a word starts
or ends there, or neither; it starts; it ends; none is before; none is behind. -/
inductive WordEdge
  | present
  | absent
  | start
  | stop
  | startHalf
  | endHalf
deriving DecidableEq

/-- A property of places in a text. Line ends are line feeds, or also carriage returns; words are
made of ASCII characters only, or of all. -/
inductive Look
  | textStart
  | textEnd
  | lineStart (crlf : Bool)
  | lineEnd (crlf : Bool)
  | word (edge : WordEdge) (ascii : Bool)
deriving DecidableEq

/-- A regular expression. -/
inductive Regex
  | empty
  | look (l : Look)
  | oneOf (s : CharSet)
  | capture (r : Regex)
  | repeated (r : Regex) (least : Nat) (most : Option Nat)
  | sequence (rs : List Regex)
  | choice (rs : List Regex)

namespace Regex

mutual

/-- Whether an expression matches empty texts only, as far as its shape tells. -/
def isWidthless : Regex → Bool
  | .empty | .look _ => true
  | .oneOf _ => false
  | .capture r => isWidthless r
  | .repeated r _ most => isWidthless r && most.isSome
  | .sequence rs | .choice rs => areWidthless rs

/-- Whether all of some expressions match empty texts only. -/
def areWidthless : List Regex → Bool
  | [] => true
  | r :: rest => isWidthless r && areWidthless rest

end

mutual

/-- Whether an expression matches no empty text, as far as its shape tells. -/
def hasWidth : Regex → Bool
  | .empty | .look _ => false
  | .oneOf s => s.ranges.size ≠ 0
  | .capture r => hasWidth r
  | .repeated r least _ => hasWidth r && least ≠ 0
  | .sequence rs => someHaveWidth rs
  | .choice rs => allHaveWidth rs

/-- Whether some of the expressions match no empty text. -/
def someHaveWidth : List Regex → Bool
  | [] => false
  | r :: rest => hasWidth r || someHaveWidth rest

/-- Whether all of the expressions match no empty text. -/
def allHaveWidth : List Regex → Bool
  | [] => true
  | r :: rest => hasWidth r && allHaveWidth rest

end

/-- Repeats an expression. One without width need not be repeated more than once. -/
def repeatOf (r : Regex) (least : Nat) (most : Option Nat) : Regex :=
  let (least, most) :=
    if r.isWidthless then (min least 1, some ((most.map (min · 1)).getD 1)) else (least, most)
  if most = some 0 then .empty
  else if least = 1 ∧ most = some 1 then r
  else .repeated r least most

end Regex

/-- The decimal digits, of ASCII or of all scripts. -/
def digitChars : (ascii : Bool) → CharSet
  | true => CharSet.ofRanges [(0x30, 0x39)]
  | false => Category.decimalDigits

/-- The white space, of ASCII or of all. -/
def spaceChars : (ascii : Bool) → CharSet
  | true => CharSet.ofRanges [(0x09, 0x0d), (0x20, 0x20)]
  | false => Property.whiteSpace

/-- The characters of words of all scripts: letters, marks, digits, connecting punctuation and the
controls that join. -/
def wordCharsOfAllScripts : CharSet :=
  ((Property.alphabetic.union (Category.members ["Mc", "Me", "Mn", "Nd", "Pc"])).union
    Property.joinControl)

/-- The characters of words, of ASCII or of all scripts. -/
def wordChars : (ascii : Bool) → CharSet
  | true => CharSet.ofRanges [(0x30, 0x39), (0x41, 0x5a), (0x5f, 0x5f), (0x61, 0x7a)]
  | false => wordCharsOfAllScripts

end AlertRules.Pattern
