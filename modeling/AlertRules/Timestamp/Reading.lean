import AlertRules.Text.Blank
import AlertRules.Timestamp

/-!
# Reading instants

The form read is that of RFC 3339 with some freedom: the date and the time of day may be apart by a
`T` or a blank, blanks may stand around the parts, the fraction may have any number of places (nine
count), a year with a sign may have any number of digits, and the zone may be `Z`, `UTC` or an
offset.
-/

namespace AlertRules.Timestamp

open AlertRules.Text (trimStart isBlankChar)

/-- A number of one up to `width` digits, and what follows it. -/
def scanNumber (width : Nat) (cs : List Char) : Option (Nat × List Char) :=
  let digits := (cs.take width).takeWhile Char.isDigit
  if digits = [] then none
  else some (digits.foldl (fun n c => 10 * n + (c.toNat - '0'.toNat)) 0, cs.drop digits.length)

/-- A number after blanks. -/
def scanField (width : Nat) (cs : List Char) : Option (Nat × List Char) :=
  scanNumber width (trimStart cs)

/-- A year: up to four digits, or a sign and any number of them. -/
def scanYear (cs : List Char) : Option (Int × List Char) :=
  match trimStart cs with
  | '-' :: rest => (scanNumber rest.length rest).map fun (n, after) => (-(n : Int), after)
  | '+' :: rest => (scanNumber rest.length rest).map fun (n, after) => ((n : Int), after)
  | rest => (scanNumber 4 rest).map fun (n, after) => ((n : Int), after)

/-- A given character after blanks. -/
def expect (c : Char) (cs : List Char) : Option (List Char) :=
  match trimStart cs with
  | d :: rest => if d = c then some rest else none
  | [] => none

/-- Nanoseconds: a point and digits, of which nine count; none without a point. -/
def scanNanos (cs : List Char) : Option (Nat × List Char) :=
  match cs with
  | '.' :: rest => do
    let (n, after) ← scanNumber 9 rest
    return (n * Nat.pow 10 (9 - (rest.length - after.length)), after.dropWhile Char.isDigit)
  | _ => some (0, cs)

/-- Two digits, and what follows them. -/
def scanTwoDigits : List Char → Option (Nat × List Char)
  | a :: b :: rest =>
    if a.isDigit ∧ b.isDigit then
      some ((a.toNat - '0'.toNat) * 10 + (b.toNat - '0'.toNat), rest)
    else none
  | _ => none

/-- The seconds by which the zone is ahead of UTC, and what follows the zone. -/
def scanZone (cs : List Char) : Option (Int × List Char) :=
  match cs with
  | 'Z' :: rest | 'z' :: rest => some (0, rest)
  | sign :: rest =>
    if (cs.take 3).map Char.toUpper = ['U', 'T', 'C'] then some (0, cs.drop 3)
    else if sign = '+' ∨ sign = '-' ∨ sign = '−' then do
      let (hours, afterHours) ← scanTwoDigits rest
      let (minutes, after) ←
        scanTwoDigits (afterHours.dropWhile fun c => c = ':' ∨ isBlankChar c)
      if minutes < 60 then
        let size : Int := (hours * 3600 + minutes * 60 : Nat)
        some (if sign = '+' then size else -size, after)
      else none
    else none
  | [] => none

/-- The instant of a local date and time in a zone. Second 60 runs through the second after 59. -/
def ofLocal? (year : Int) (month day hour minute second nanos : Nat) (ahead : Int) :
    Option Timestamp :=
  if Calendar.firstYear ≤ year ∧ year ≤ Calendar.lastYear ∧ 1 ≤ month ∧ month ≤ 12 ∧ 1 ≤ day ∧
      day ≤ Calendar.daysInMonth year month ∧ hour < 24 ∧ minute < 60 ∧ second ≤ 60 ∧
      -86400 < ahead ∧ ahead < 86400 then
    let (within, extra) := if second = 60 then (59, nanosPerSecond) else (second, 0)
    let clock : Nat := hour * 3600 + minute * 60 + within
    ofParts? (Calendar.daysOfDate year month day * 86400 + clock - ahead) (nanos + extra)
  else none

/-- The separator of date and time of day. -/
def scanSeparator : List Char → Option (List Char)
  | 'T' :: rest | 't' :: rest | ' ' :: rest => some rest
  | _ => none

/-- The instant of a text. -/
def ofString? (s : String) : Option Timestamp := do
  let (year, cs) ← scanYear s.toList
  let cs ← expect '-' cs
  let (month, cs) ← scanField 2 cs
  let cs ← expect '-' cs
  let (day, cs) ← scanField 2 cs
  let cs ← scanSeparator cs
  let (hour, cs) ← scanField 2 cs
  let cs ← expect ':' cs
  let (minute, cs) ← scanField 2 cs
  let cs ← expect ':' cs
  let (second, cs) ← scanField 2 cs
  let (nanos, cs) ← scanNanos cs
  let (ahead, cs) ← scanZone (trimStart cs)
  if trimStart cs = [] then ofLocal? year month day hour minute second nanos ahead else none

end AlertRules.Timestamp
