import ScriptFlow.Text.Quoted
import ScriptFlow.Decimal.Text

/-!
# Spans and instants as text

A span of time is a count of microseconds, an instant the count after the start of the year 2020. Dates are
those of the calendar extended to all years from 1 to 9999.
-/

namespace ScriptFlow

/-- Microseconds of a day. -/
def dayMicros : Int := 86400000000

/-- A natural number in at least `width` digits. -/
def padded (width n : Nat) : String := String.ofList (NumberFormat.zeroPad width (NumberFormat.digitsOf n))

namespace Span

/-- Hours, minutes, seconds and, when not zero, the six digits of microseconds of a part of a day. -/
def clock (hourWidth us : Nat) : String :=
  let seconds := us / 1000000
  let micros := us % 1000000
  padded hourWidth (seconds / 3600) ++ ":" ++ padded 2 (seconds / 60 % 60) ++ ":" ++ padded 2 (seconds % 60) ++
    (if micros == 0 then "" else "." ++ padded 6 micros)

/-- Days, if any, and the clock time of a span. -/
def text (us : Int) : String :=
  let days := us.fdiv dayMicros
  let rest := clock 1 (us.fmod dayMicros).toNat
  if days == 0 then rest
  else toString days ++ (if days.natAbs == 1 then " day, " else " days, ") ++ rest

/-- The constructor form of a span. -/
def expression (us : Int) : String :=
  let days := us.fdiv dayMicros
  let rest := us.fmod dayMicros
  let seconds := rest / 1000000
  let micros := rest % 1000000
  let parts := [("days", days), ("seconds", seconds), ("microseconds", micros)].filter (·.2 != 0)
  "datetime.timedelta(" ++
    (if parts.isEmpty then "0" else ", ".intercalate (parts.map fun p => p.1 ++ "=" ++ toString p.2)) ++ ")"

end Span

namespace Calendar

/-- Days from the first of March of the year 0 to the first of January 2020. -/
def dayOffset : Int := 737730

/-- Year, month and day of the count of days after the start of 2020. -/
def ofDays (days : Int) : Int × Nat × Nat :=
  let z := days + dayOffset
  let era := z.fdiv 146097
  let doe := (z - era * 146097).toNat
  let yoe := (doe - doe / 1460 + doe / 36524 - doe / 146096) / 365
  let doy := doe - (365 * yoe + yoe / 4 - yoe / 100)
  let mp := (5 * doy + 2) / 153
  let day := doy - (153 * mp + 2) / 5 + 1
  let month := if mp < 10 then mp + 3 else mp - 9
  (era * 400 + yoe + (if month ≤ 2 then 1 else 0), month, day)

/-- Count of days after the start of 2020 of a date. -/
def toDays (year : Int) (month day : Nat) : Int :=
  let y := if month ≤ 2 then year - 1 else year
  let era := y.fdiv 400
  let yoe := (y - era * 400).toNat
  let mp := if month > 2 then month - 3 else month + 9
  let doy := (153 * mp + 2) / 5 + day - 1
  let doe := yoe * 365 + yoe / 4 - yoe / 100 + doy
  era * 146097 + (doe : Int) - dayOffset

/-- Is the year one with a 29th of February? -/
def isLeap (year : Int) : Bool := year % 4 == 0 && (year % 100 != 0 || year % 400 == 0)

/-- Count of days of a month. -/
def daysIn (year : Int) (month : Nat) : Nat :=
  if month == 2 then (if isLeap year then 29 else 28) else if [4, 6, 9, 11].contains month then 30 else 31

example : ofDays 0 = (2020, 1, 1) := by decide
example : toDays 2020 1 1 = 0 := by decide
example : toDays 1 1 1 = -737424 := by decide
example : ofDays (-737424) = (1, 1, 1) := by decide

end Calendar

namespace Instant

/-- The last instant of the year 9999 and the first of the year 1. -/
def last : Int := (Calendar.toDays 9999 12 31 + 1) * dayMicros - 1
def first : Int := Calendar.toDays 1 1 1 * dayMicros

/-- Date and time in universal time. -/
def text (us : Int) : String :=
  let (y, m, d) := Calendar.ofDays (us.fdiv dayMicros)
  padded 4 y.toNat ++ "-" ++ padded 2 m ++ "-" ++ padded 2 d ++ "T" ++ Span.clock 2 (us.fmod dayMicros).toNat ++ "+00:00"

end Instant

end ScriptFlow
