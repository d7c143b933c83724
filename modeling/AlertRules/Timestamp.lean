/-!
# Instants

An instant counts seconds from the start of 1970 in UTC, and nanoseconds within the second. During
a leap second the nanoseconds run on past a thousand million; that happens only at the end of a
minute. Years go from -262143 to 262142.
-/

namespace AlertRules

namespace Calendar

/-- Days from 1970-01-01 to a date of the Gregorian calendar, which is taken to have always been
in use. -/
def daysOfDate (year : Int) (month day : Nat) : Int :=
  let y := if month ≤ 2 then year - 1 else year
  let era := y / 400
  let yearOfEra := y % 400
  let shifted : Int := (month + 9) % 12
  let dayOfYear := (153 * shifted + 2) / 5 + day - 1
  let dayOfEra := yearOfEra * 365 + yearOfEra / 4 - yearOfEra / 100 + dayOfYear
  era * 146097 + dayOfEra - 719468

/-- The date that lies the given number of days after 1970-01-01. -/
def dateOfDays (days : Int) : Int × Nat × Nat :=
  let z := days + 719468
  let era := z / 146097
  let dayOfEra := z % 146097
  let yearOfEra := (dayOfEra - dayOfEra / 1460 + dayOfEra / 36524 - dayOfEra / 146096) / 365
  let dayOfYear := dayOfEra - (365 * yearOfEra + yearOfEra / 4 - yearOfEra / 100)
  let shifted := (5 * dayOfYear + 2) / 153
  let day := dayOfYear - (153 * shifted + 2) / 5 + 1
  let month := if shifted < 10 then shifted + 3 else shifted - 9
  let year := yearOfEra + era * 400 + (if month ≤ 2 then 1 else 0)
  (year, month.toNat, day.toNat)

/-- Whether a year has a 29 February. -/
def isLeapYear (year : Int) : Bool := year % 4 = 0 ∧ (year % 100 ≠ 0 ∨ year % 400 = 0)

/-- How many days a month has. -/
def daysInMonth (year : Int) (month : Nat) : Nat :=
  if month = 2 then (if isLeapYear year then 29 else 28)
  else if month = 4 ∨ month = 6 ∨ month = 9 ∨ month = 11 then 30
  else 31

/-- The first year of instants. -/
def firstYear : Int := -262143

/-- The last year of instants. -/
def lastYear : Int := 262142

end Calendar

namespace Timestamp

/-- The first second of instants. -/
def firstSecond : Int := Calendar.daysOfDate Calendar.firstYear 1 1 * 86400

/-- The last second of instants. -/
def lastSecond : Int := Calendar.daysOfDate Calendar.lastYear 12 31 * 86400 + 86399

/-- The nanoseconds of a second. -/
def nanosPerSecond : Nat := 1000000000

/-- What makes seconds and nanoseconds an instant. -/
abbrev Valid (seconds : Int) (nanos : Nat) : Prop :=
  firstSecond ≤ seconds ∧ seconds ≤ lastSecond ∧ nanos < 2 * nanosPerSecond ∧
    (nanosPerSecond ≤ nanos → seconds % 60 = 59)

end Timestamp

/-- An instant. -/
structure Timestamp where
  seconds : Int
  nanos : Nat
  valid : Timestamp.Valid seconds nanos
deriving DecidableEq

namespace Timestamp

/-- The instant of seconds and nanoseconds, if they make one. -/
def ofParts? (seconds : Int) (nanos : Nat) : Option Timestamp :=
  if h : Valid seconds nanos then some ⟨seconds, nanos, h⟩ else none

/-- A number with at least `width` digits. -/
def padded (width n : Nat) : String :=
  let digits := toString n
  String.ofList (List.replicate (width - digits.length) '0') ++ digits

/-- A year with four digits, or with a sign and at least four when it has not between one and four
digits. -/
def yearText (year : Int) : String :=
  if 0 ≤ year ∧ year ≤ 9999 then padded 4 year.toNat
  else (if year < 0 then "-" else "+") ++ padded 4 year.natAbs

/-- The fraction of a second: no, three, six or nine places, as few as give the value. -/
def fractionText (nanos : Nat) : String :=
  if nanos = 0 then ""
  else if nanos % 1000000 = 0 then "." ++ padded 3 (nanos / 1000000)
  else if nanos % 1000 = 0 then "." ++ padded 6 (nanos / 1000)
  else "." ++ padded 9 nanos

/-- The text of an instant: date and time of day in UTC. A leap second is second 60. -/
def text (t : Timestamp) : String :=
  let (year, month, day) := Calendar.dateOfDays (t.seconds / 86400)
  let time := (t.seconds % 86400).toNat
  let leap := t.nanos / nanosPerSecond
  yearText year ++ "-" ++ padded 2 month ++ "-" ++ padded 2 day ++ "T" ++
    padded 2 (time / 3600) ++ ":" ++ padded 2 (time / 60 % 60) ++ ":" ++
    padded 2 (time % 60 + leap) ++ fractionText (t.nanos % nanosPerSecond) ++ "Z"

end Timestamp

end AlertRules
