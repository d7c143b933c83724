import AlertRules.Pattern.Regex

/-!
# The size of regular expressions

An expression is accepted only if the machines that would look for it, one reading a text forward
and one backward, stay within `sizeLimit` bytes. A machine works on bytes of UTF-8. It has a state
for each byte, place, fork and joint; counted repetitions repeat their states. `footprint` counts
without building, so a count of a thousand million is refused at once.
-/

namespace AlertRules.Pattern

open Text

/-- The size a machine may have, in bytes. -/
def sizeLimit : Nat := 10 * 1024 * 1024

/-- The size of a state. -/
def stateSize : Nat := 32

/-- The size of one of the ways out of a fork. -/
def branchSize : Nat := 4

/-- The size of one of the byte ranges of a state that has several. -/
def rangeSize : Nat := 8

/-- A fork in two, with its state. -/
def forkSize : Nat := stateSize + 2 * branchSize

namespace Utf8

/-- The bytes of a code point. -/
def bytes (c : Nat) : List Nat :=
  if c < 0x80 then [c]
  else if c < 0x800 then [0xc0 + c / 0x40, 0x80 + c % 0x40]
  else if c < 0x10000 then [0xe0 + c / 0x1000, 0x80 + c / 0x40 % 0x40, 0x80 + c % 0x40]
  else [0xf0 + c / 0x40000, 0x80 + c / 0x1000 % 0x40, 0x80 + c / 0x40 % 0x40, 0x80 + c % 0x40]

/-- Where a range of code points must be cut, after which one, so that both parts come closer to
being described by one range for each of their bytes. -/
def cut? (a b : Nat) : Option Nat :=
  match [0x7f, 0x7ff, 0xd7ff, 0xdfff, 0xffff].find? fun c => a ≤ c ∧ c < b with
  | some c => some c
  | none =>
    if b < 0x80 then none
    else [0x40, 0x1000, 0x40000].findSome? fun m =>
      if a / m = b / m then none
      else if a % m ≠ 0 then some (a / m * m + m - 1)
      else if b % m ≠ m - 1 then some (b / m * m - 1)
      else none

/-- The ranges of each byte for the code points of a range, surrogates apart. -/
def sequences (a b : Nat) : List (List (Nat × Nat)) :=
  match cut? a b with
  | some c =>
    if _h : a ≤ c ∧ c < b then sequences a c ++ sequences (c + 1) b else []
  | none => if 0xd800 ≤ a ∧ a ≤ 0xdfff then [] else [(bytes a).zip (bytes b)]
termination_by b - a

/-- Groups neighbouring sequences by their first range. -/
def groupByHead : List (List (Nat × Nat)) → List ((Nat × Nat) × List (List (Nat × Nat)))
  | [] => []
  | [] :: rest => groupByHead rest
  | (r :: tail) :: rest =>
    match groupByHead rest with
    | (s, tails) :: others =>
      if r = s then (s, tail :: tails) :: others else (r, [tail]) :: (s, tails) :: others
    | [] => [(r, [tail])]

/-- The states of the tree of sequences, each given by the sequences that are left. -/
def states : (depth : Nat) → List (List (Nat × Nat)) → List (List (List (Nat × Nat)))
  | 0, _ => []
  | depth + 1, seqs =>
    match groupByHead seqs with
    | [] => []
    | groups => seqs :: groups.flatMap fun (_, tails) => states depth tails

end Utf8

/-- The size of the states for one character of a set. -/
def setFootprint (backward : Bool) (s : CharSet) : Nat :=
  let ranges := s.ranges.toList
  match ranges with
  | [] => stateSize
  | [(a, b)] =>
    if a = b then stateSize * (Utf8.bytes a).length
    else if s.isAscii then 2 * stateSize + rangeSize
    else byTree ranges
  | _ =>
    if s.isAscii then 2 * stateSize + rangeSize * ranges.length
    else byTree ranges
where
  /-- The states that read the bytes of longer characters. Forward equal states are shared, backward
  only common starts are. -/
  byTree (ranges : List (Nat × Nat)) : Nat :=
    let seqs := ranges.flatMap fun (a, b) => Utf8.sequences a b
    let states := Utf8.states 4 seqs
    let edges (tails : List (List (Nat × Nat))) : Nat := (Utf8.groupByHead tails).length
    if backward then
      2 * stateSize + branchSize * seqs.length +
        states.foldl (fun size tails => size + stateSize * edges tails) 0
    else
      states.eraseDups.foldl (fun size tails => size + stateSize + rangeSize * edges tails)
        stateSize

namespace Regex

/-- The size of a repetition of something of size `body`. -/
def repeatedFootprint (hasWidth : Bool) (body least : Nat) : (most : Option Nat) → Nat
  | none =>
    if least ≠ 0 then least * body + forkSize
    else if hasWidth then body + forkSize
    else body + 2 * forkSize + stateSize
  | some most =>
    if least = most then least * body
    else (if least = 0 then (if most = 1 then 0 else stateSize) else least * body) +
      stateSize + (most - least) * (forkSize + body)

mutual

/-- The size of the states of an expression. -/
def footprint (backward : Bool) : Regex → Nat
  | .empty | .look _ => stateSize
  | .oneOf s => setFootprint backward s
  | .capture r => footprint backward r + (if backward then 0 else 2 * stateSize)
  | .repeated r least most => repeatedFootprint r.hasWidth (footprint backward r) least most
  | .sequence rs => max stateSize (footprintOfSequence backward rs)
  | .choice rs => 2 * stateSize + branchSize * rs.length + footprintOfBranches backward rs

/-- The size of the states of expressions one after the other. -/
def footprintOfSequence (backward : Bool) : List Regex → Nat
  | [] => 0
  | .empty :: rest => footprintOfSequence backward rest
  | r :: rest => footprint backward r + footprintOfSequence backward rest

/-- The size of the states of branches. -/
def footprintOfBranches (backward : Bool) : List Regex → Nat
  | [] => 0
  | r :: rest => footprint backward r + footprintOfBranches backward rest

end

/-- The size of what surrounds an expression: the loop that starts the search at each byte, and the
states at the ends. -/
def frameSize (backward : Bool) : Nat :=
  forkSize + 2 * stateSize + rangeSize + stateSize + (if backward then 0 else 2 * stateSize)

/-- Whether the machines of an expression are small enough. -/
def fits (r : Regex) : Bool :=
  r.footprint false + frameSize false ≤ sizeLimit && r.footprint true + frameSize true ≤ sizeLimit

end Regex

end AlertRules.Pattern
