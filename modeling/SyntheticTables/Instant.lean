/-
  Points in time and how they are written.

  Days are counted in eras of 400 years, after which the calendar repeats itself.  A year is taken to
  begin with March, so that the day that is not always there is its last.
-/

namespace SyntheticTables

/-- A point in universal time, not before 1970; leap seconds are not counted. -/
structure Instant where
  /-- Seconds since 1970. -/
  seconds : Nat
  nanoseconds : Nat := 0
  deriving Repr, DecidableEq, Inhabited

/-- A day of the calendar, with months and days counted from one. -/
structure CalendarDay where
  year : Nat
  month : Nat
  day : Nat
  deriving Repr, DecidableEq, Inhabited

namespace CalendarDay

/-- The days of four hundred years, ninety-seven of which are leap years. -/
def daysPerEra : Nat := 146097

/-- The year, within its era, of a day of an era.  The leap days before it are taken out first: one
    in four years, less one in a hundred, and one more at the end of the era. -/
def yearOfEra (dayOfEra : Nat) : Nat :=
  (dayOfEra - dayOfEra / 1460 + dayOfEra / 36524 - dayOfEra / 146096) / 365

/-- The days of an era that lie before one of its years. -/
def daysBeforeYear (year : Nat) : Nat := 365 * year + year / 4 - year / 100

/-- The days of a year that lie before one of its months; March has the number zero. -/
def daysBeforeMonth (month : Nat) : Nat := (153 * month + 2) / 5

/-- The day that lies a number of days after the first of January 1970.  Eras begin in March of a
    year that four hundred divides, 719468 days before that. -/
def ofDays (days : Nat) : CalendarDay :=
  let shifted := days + 719468
  let dayOfEra := shifted % daysPerEra
  let year := yearOfEra dayOfEra
  let dayOfYear := dayOfEra - daysBeforeYear year
  let month := (5 * dayOfYear + 2) / 153
  let nextYear := if month < 10 then 0 else 1
  { year := 400 * (shifted / daysPerEra) + year + nextYear
    month := if month < 10 then month + 3 else month - 9
    day := dayOfYear - daysBeforeMonth month + 1 }

example : ofDays 0 = ⟨1970, 1, 1⟩ := by decide
example : ofDays 11016 = ⟨2000, 2, 29⟩ := by decide
example : ofDays 20454 = ⟨2026, 1, 1⟩ := by decide

end CalendarDay

namespace Instant

/-- A number with zeros in front up to a width; a longer number is not cut. -/
def padded (width n : Nat) : String :=
  let digits := toString n
  String.ofList (List.replicate (width - digits.length) '0') ++ digits

/-- The day on which an instant lies. -/
def day (t : Instant) : CalendarDay := .ofDays (t.seconds / 86400)

/-- The day as year, month and day, with zeros in front of short numbers. -/
def dayText (t : Instant) : String :=
  s!"{padded 4 t.day.year}-{padded 2 t.day.month}-{padded 2 t.day.day}"

/-- Hours, minutes and seconds with something between them. -/
def clockText (separator : String) (t : Instant) : String :=
  let second := t.seconds % 86400
  separator.intercalate
    [padded 2 (second / 3600), padded 2 (second / 60 % 60), padded 2 (second % 60)]

/-- The second as a file name can hold it: without colons, and without the parts of a second. -/
def stamp (t : Instant) : String := t.dayText ++ "T" ++ t.clockText "-" ++ "Z"

/-- The part of a second in three, six or nine digits, as many as it takes. -/
def fractionText (t : Instant) : String :=
  if t.nanoseconds = 0 then ""
  else if t.nanoseconds % 1000000 = 0 then "." ++ padded 3 (t.nanoseconds / 1000000)
  else if t.nanoseconds % 1000 = 0 then "." ++ padded 6 (t.nanoseconds / 1000)
  else "." ++ padded 9 t.nanoseconds

/-- The instant with its offset from universal time, which is none. -/
def text (t : Instant) : String :=
  t.dayText ++ "T" ++ t.clockText ":" ++ t.fractionText ++ "+00:00"

/-- How many whole milliseconds lie between two instants; none if they are in the wrong order. -/
def millisecondsUntil (start stop : Instant) : Nat :=
  ((stop.seconds * 1000000000 + stop.nanoseconds)
    - (start.seconds * 1000000000 + start.nanoseconds)) / 1000000

end Instant

end SyntheticTables
