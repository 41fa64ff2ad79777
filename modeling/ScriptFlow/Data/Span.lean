import ScriptFlow.Data.Decode
import ScriptFlow.Data.Instant

/-!
# Spans of seconds

A span counts microseconds and has less than 10^9 whole days in either direction. A floating-point count of seconds is cut into its
whole part, which is exact, and its fraction, which is rounded to the nearest microsecond, a half to the even neighbour.
-/

namespace ScriptFlow

namespace Span

/-- The largest count of days. -/
def maxDays : Int := 999999999

def isInRange (us : Int) : Bool := decide (-maxDays ≤ us.fdiv dayMicros) && decide (us.fdiv dayMicros ≤ maxDays)

/-- The error for a span with too many days. -/
def outOfRange : Fault := .error .overflow "days; must have magnitude <= 999999999"

def check (us : Int) : Except Fault Int := if isInRange us then .ok us else .error outOfRange

/-- Whole part and remaining fraction of a finite number. -/
def parts? (x : Float) : Option (Int × Float) :=
  match Binary.ofFloat x with
  | .finite negative m e =>
    let whole := Binary.truncate negative m e
    some (whole, x - (Float.ofInt? whole).getD 0.0)
  | _ => none

/-- The nearest whole number to a finite number, a half to even. -/
def nearest (x : Float) : Int :=
  match Binary.ofFloat x with
  | .finite negative m e =>
    if 0 ≤ e then Binary.truncate negative m e else Binary.signOf negative * (roundHalfEven m (Nat.pow 2 (-e).toNat) : Int)
  | _ => 0

/-- Microseconds of a finite count of seconds, the sum of both parts rounded to an even count when the fraction is half way. -/
def micros? (seconds : Float) : Option Int :=
  (parts? seconds).map fun (whole, fraction) =>
    let scaled : Float := fraction * 1000000.0
    match parts? scaled with
    | some (more, left) =>
      let base := whole * 1000000 + more
      if left == 0.5 then (if base % 2 == 0 then base else base + 1)
      else if left == -0.5 then (if base % 2 == 0 then base else base - 1)
      else base + nearest left
    | none => whole * 1000000

/-- The span of a floating-point count of seconds. -/
def ofSeconds (seconds : Float) : Except Fault Int :=
  match micros? seconds with
  | some us => check us
  | none =>
    if seconds.isNaN then .error (.error .badValue "cannot convert float NaN to integer")
    else .error (.error .overflow "cannot convert float infinity to integer")

/-- The floating-point number nearest to the seconds of a span. -/
def toSeconds (us : Int) : Float :=
  let x := Float.ofScientific us.natAbs true 6
  if us < 0 then -x else x

/-- The span of a number of seconds. -/
def ofNumber (d : Data) : Except Fault Int :=
  match d with
  | .int n => check (n * 1000000)
  | .bool b => .ok (if b then 1000000 else 0)
  | .float x => ofSeconds x
  | _ => .error (.error .misuse "unsupported type for timedelta seconds component")

end Span

/-- The instant that is a span after another; dates end with the year 9999. -/
def Instant.after (start span : Int) : Except Fault Int :=
  let us := start + span
  if Instant.first ≤ us && us ≤ Instant.last then .ok us else .error (.error .overflow "date value out of range")

end ScriptFlow
