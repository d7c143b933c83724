import AlertRules.Pattern.Regex

/-!
# Matching

`Regex.ends` gives, for a text and the places where an expression may start, the places where it may
end. Places are numbers of characters before them, in ascending order. A text matches if the
expression ends anywhere when it may start anywhere.
-/

namespace AlertRules.Pattern

open Text

/-- Whether the character at an index is one of words. -/
def isWordAt (ascii : Bool) (text : Array Char) (i : Nat) : Bool :=
  match text[i]? with
  | some c => (wordChars ascii).contains c.toNat
  | none => false

/-- Whether a place has a property. A carriage return and the line feed behind it end one line. -/
def Look.holdsAt (text : Array Char) (p : Nat) : Look → Bool
  | .textStart => p = 0
  | .textEnd => p = text.size
  | .lineStart false => p = 0 || text[p - 1]? = some '\n'
  | .lineStart true =>
    p = 0 || text[p - 1]? = some '\n' || (text[p - 1]? = some '\r' && text[p]? ≠ some '\n')
  | .lineEnd false => p = text.size || text[p]? = some '\n'
  | .lineEnd true =>
    p = text.size || text[p]? = some '\r' ||
      (text[p]? = some '\n' && (p = 0 || text[p - 1]? ≠ some '\r'))
  | .word edge ascii =>
    let before := p ≠ 0 && isWordAt ascii text (p - 1)
    let behind := isWordAt ascii text p
    match edge with
    | .present => before != behind
    | .absent => before == behind
    | .start => !before && behind
    | .stop => before && !behind
    | .startHalf => !before
    | .endHalf => !behind

/-- The numbers of either ascending list. -/
def mergePlaces : List Nat → List Nat → List Nat
  | [], qs => qs
  | ps, [] => ps
  | p :: ps, q :: qs =>
    if p < q then p :: mergePlaces ps (q :: qs)
    else if q < p then q :: mergePlaces (p :: ps) qs
    else p :: mergePlaces ps qs
termination_by ps qs => ps.length + qs.length

/-- The numbers of the first ascending list that are not in the second. -/
def withoutPlaces : List Nat → List Nat → List Nat
  | [], _ => []
  | ps, [] => ps
  | p :: ps, q :: qs =>
    if p < q then p :: withoutPlaces ps (q :: qs)
    else if q < p then withoutPlaces (p :: ps) qs
    else withoutPlaces ps qs
termination_by ps qs => ps.length + qs.length

/-- Takes so many steps, or as many as change anything. -/
def stepTimes (step : List Nat → List Nat) : (count : Nat) → List Nat → List Nat
  | 0, ps => ps
  | count + 1, ps =>
    let next := step ps
    if next = ps then ps else stepTimes step count next

/-- The places reached in at most so many steps; `fresh` are those that were reached last. -/
def spread (step : List Nat → List Nat) : (count : Nat) → (reached fresh : List Nat) → List Nat
  | 0, reached, _ => reached
  | count + 1, reached, fresh =>
    match withoutPlaces (step fresh) reached with
    | [] => reached
    | next => spread step count (mergePlaces reached next) next

namespace Regex

mutual

/-- The places where an expression ends when it starts at one of the places `ps`. Repetition without
a bound needs no more rounds than there are places. -/
def ends (text : Array Char) : Regex → List Nat → List Nat
  | .empty, ps => ps
  | .look l, ps => ps.filter (l.holdsAt text)
  | .oneOf s, ps =>
    (ps.filter fun p => (text[p]?).any fun c => s.contains c.toNat).map (· + 1)
  | .capture r, ps => ends text r ps
  | .repeated r least most, ps =>
    let start := stepTimes (ends text r) least ps
    spread (ends text r) ((most.map (· - least)).getD (text.size + 1)) start start
  | .sequence rs, ps => endsOfSequence text rs ps
  | .choice rs, ps => endsOfChoice text rs ps

/-- The places where expressions one after the other end. -/
def endsOfSequence (text : Array Char) : List Regex → List Nat → List Nat
  | [], ps => ps
  | r :: rest, ps => endsOfSequence text rest (ends text r ps)

/-- The places where any of some expressions ends. -/
def endsOfChoice (text : Array Char) : List Regex → List Nat → List Nat
  | [], _ => []
  | r :: rest, ps => mergePlaces (ends text r ps) (endsOfChoice text rest ps)

end

/-- Whether an expression matches somewhere in a text. -/
def isMatch (r : Regex) (s : String) : Bool :=
  let text := s.toList.toArray
  !(r.ends text (List.range (text.size + 1))).isEmpty

end Regex

end AlertRules.Pattern
