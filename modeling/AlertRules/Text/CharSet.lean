import AlertRules.Text.Digits

/-!
# Sets of characters

A set of characters is kept as ascending ranges of code points. The operations here are those a
bracketed class of a pattern needs: union, difference, complement. Tables of character data are
lines of run lengths; `ofRuns` and `ofLabelledRuns` read them.
-/

namespace AlertRules.Text

/-- A set of characters, as ascending ranges of code points (first and last) that do not meet. -/
structure CharSet where
  ranges : Array (Nat × Nat)
deriving DecidableEq

namespace CharSet

/-- The largest code point. -/
def lastCode : Nat := 0x10ffff

/-- The code points that are no characters: the surrogates. -/
def surrogates : Nat × Nat := (0xd800, 0xdfff)

/-- Joins ranges that overlap or touch; the ranges come in ascending order of their first. -/
def joinRanges : List (Nat × Nat) → List (Nat × Nat)
  | [] => []
  | [r] => [r]
  | (a, b) :: (c, d) :: rest =>
    if c ≤ b + 1 then joinRanges ((a, max b d) :: rest) else (a, b) :: joinRanges ((c, d) :: rest)
termination_by rs => rs.length

/-- The set of the code points in any of the ranges. -/
def ofRanges (rs : List (Nat × Nat)) : CharSet :=
  ⟨(joinRanges (rs.mergeSort fun a b => a.1 ≤ b.1)).toArray⟩

/-- No characters. -/
def empty : CharSet := ⟨#[]⟩

/-- All characters. -/
def all : CharSet := ⟨#[(0, surrogates.1 - 1), (surrogates.2 + 1, lastCode)]⟩

/-- One character. -/
def singleton (c : Nat) : CharSet := ⟨#[(c, c)]⟩

/-- The characters of either set. -/
def union (s t : CharSet) : CharSet := ofRanges (s.ranges.toList ++ t.ranges.toList)

/-- The code points from `next` on that no range holds; the ranges are ascending. -/
def gaps (next : Nat) : List (Nat × Nat) → List (Nat × Nat)
  | [] => if next ≤ lastCode then [(next, lastCode)] else []
  | (a, b) :: rest => (if next < a then [(next, a - 1)] else []) ++ gaps (max next (b + 1)) rest

/-- The characters outside a set. -/
def complement (s : CharSet) : CharSet :=
  ⟨(gaps 0 (ofRanges (surrogates :: s.ranges.toList)).ranges.toList).toArray⟩

/-- The characters of both sets. -/
def intersection (s t : CharSet) : CharSet :=
  (s.complement.union t.complement).complement

/-- The characters of the first set that are not in the second. -/
def difference (s t : CharSet) : CharSet := s.intersection t.complement

/-- The characters of exactly one of the sets. -/
def symmetricDifference (s t : CharSet) : CharSet :=
  (s.union t).difference (s.intersection t)

/-- Looks for the code point in the ranges with index from `lo` up to, not including, `hi`. -/
def containsBetween (ranges : Array (Nat × Nat)) (c lo hi : Nat) : Bool :=
  if _h : lo < hi then
    let mid := (lo + hi) / 2
    match ranges[mid]? with
    | none => false
    | some (a, b) =>
      if c < a then containsBetween ranges c lo mid
      else if b < c then containsBetween ranges c (mid + 1) hi
      else true
  else false
termination_by hi - lo

/-- Whether a code point is in the set. -/
def contains (s : CharSet) (c : Nat) : Bool := containsBetween s.ranges c 0 s.ranges.size

/-- Whether the set holds ASCII characters only. -/
def isAscii (s : CharSet) : Bool := s.ranges.all fun r => r.2 < 0x80

/-- The ranges of alternating run lengths: the first run, from `next` on, is outside the set, the
second inside, and so on. -/
def rangesOfRuns (next : Nat) : List Nat → List (Nat × Nat)
  | outside :: inside :: rest =>
    (next + outside, next + outside + inside - 1) :: rangesOfRuns (next + outside + inside) rest
  | _ => []

/-- The words of some lines, which are apart by blanks. -/
def words (lines : List String) : List String := lines.flatMap (·.splitOn " ")

/-- The set written as alternating run lengths, apart by blanks. -/
def ofRuns (lines : List String) : CharSet :=
  ⟨(rangesOfRuns 0 ((words lines).map fun w => natOfDigits w.toList)).toArray⟩

/-- The ranges, from `next` on, of the runs whose label is wanted. -/
def rangesOfLabelled (wanted : String → Bool) (next : Nat) : List (String × Nat) →
    List (Nat × Nat)
  | [] => []
  | (label, count) :: rest =>
    (if wanted label then [(next, next + count - 1)] else []) ++
      rangesOfLabelled wanted (next + count) rest

/-- The set of the runs with a wanted label among runs apart by blanks, each of which is a label of
`width` letters and a run length. -/
def ofLabelledRuns (wanted : String → Bool) (width : Nat) (lines : List String) : CharSet :=
  let runs := (words lines).map fun w =>
    (String.ofList (w.toList.take width), natOfDigits (w.toList.drop width))
  ofRanges (rangesOfLabelled wanted 0 runs)

end CharSet

/-- A name with blanks, hyphens, underscores and capitals evened out, by which names of character
data are compared. -/
def evenedName (name : List Char) : List Char :=
  (name.filter fun c => c ≠ ' ' ∧ c ≠ '_' ∧ c ≠ '-' ∧ c.toNat < 0x80).map Char.toLower

/-- The form in which names of character data are compared: case, blanks, hyphens, underscores and
a leading `is` do not count. A bare `isc` keeps its `is`. -/
def looseName (name : String) : String :=
  match name.toList with
  | a :: b :: rest =>
    if a.toLower = 'i' ∧ b.toLower = 's' then
      let even := evenedName rest
      if even = ['c'] then "isc" else String.ofList even
    else String.ofList (evenedName (a :: b :: rest))
  | short => String.ofList (evenedName short)

end AlertRules.Text
