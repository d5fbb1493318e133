/-!
# Moments

A moment in universal time, down to the second, as it is named in message ids.

- `Moment.compact` writes a moment without marks between its parts;
- `Moment.ofSeconds` counts it from the start of the year 1970.
-/

namespace As2Exchange

/-- A moment in universal time. -/
structure Moment where
  (year month day hour minute second : Nat)
  deriving DecidableEq, Repr

namespace Moment

/-- A number in decimal digits, at least two of them. -/
def twoDigits (n : Nat) : String := if n < 10 then "0" ++ toString n else toString n

/-- Day, month, year, hour, minute, second and offset, without marks between them. -/
def compact (m : Moment) : String :=
  twoDigits m.day ++ twoDigits m.month ++ toString m.year ++ twoDigits m.hour
    ++ twoDigits m.minute ++ twoDigits m.second ++ "+0000"

/-- The days from the first of March in the year 0 to the start of 1970. -/
def daysBefore1970 : Nat := 719468

/-- The days of four hundred years. -/
def eraDays : Nat := 146097

/-- The day that is so many days after the first of March in the year 0. Years are counted from
March here, so that the day of a leap year comes last. -/
def dateOfDays (days : Nat) : Nat × Nat × Nat :=
  let inEra := days % eraDays
  let yearOfEra := (inEra - inEra / 1460 + inEra / 36524 - inEra / 146096) / 365
  let dayOfYear := inEra - (365 * yearOfEra + yearOfEra / 4 - yearOfEra / 100)
  let fromMarch := (5 * dayOfYear + 2) / 153
  let day := dayOfYear - (153 * fromMarch + 2) / 5 + 1
  let month := if fromMarch < 10 then fromMarch + 3 else fromMarch - 9
  let year := yearOfEra + days / eraDays * 400
  (if month ≤ 2 then year + 1 else year, month, day)

/-- The moment that is so many seconds after the start of 1970. -/
def ofSeconds (seconds : Nat) : Moment :=
  let (year, month, day) := dateOfDays (seconds / 86400 + daysBefore1970)
  ⟨year, month, day, seconds / 3600 % 24, seconds / 60 % 60, seconds % 60⟩

example : (ofSeconds 0).compact = "01011970000000+0000" := by decide +kernel

example : (ofSeconds 951868799).compact = "29022000235959+0000" := by decide +kernel

end Moment

end As2Exchange
