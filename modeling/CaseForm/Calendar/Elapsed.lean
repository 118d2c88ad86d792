import CaseForm.Calendar.Moment
import CaseForm.Text.Cut

/-!
Elapsed time in words.

A span is named in the unit that suits it, from seconds to years. Every count is rounded to the
nearest whole, halves upwards, in exact arithmetic.
-/

namespace CaseForm

/-- The nearest whole number of units, halves upwards. -/
def roundedUnits (seconds unit : Nat) : Nat := (2 * seconds + unit) / (2 * unit)

/-- The length of an average month in seconds, a twelfth of a year of 365.2425 days. -/
def secondsPerMonth : Nat := 2629746

/-- The length of a year of 365.25 days in seconds. -/
def secondsPerYear : Nat := 31557600

/-- A span of time in words. -/
def spanText (seconds : Nat) : String :=
  let minutes := roundedUnits seconds 60
  let hours := roundedUnits seconds 3600
  let days := roundedUnits seconds 86400
  let months := roundedUnits seconds secondsPerMonth
  let years := roundedUnits seconds secondsPerYear
  let count (n : Nat) (unit : String) : String := toString n ++ " " ++ unit
  if seconds < 45 then "a few seconds"
  else if seconds < 90 then "a minute"
  else if minutes < 45 then count minutes "minutes"
  else if minutes < 90 then "an hour"
  else if hours < 22 then count hours "hours"
  else if hours < 36 then "a day"
  else if days < 26 then count days "days"
  else if days < 45 then "a month"
  else if days < 320 then count (max months 2) "months"
  else if days < 548 then "a year"
  else count (max years 2) "years"

/-- The pattern of a server's timestamps, once the name of UTC has become an offset. -/
def serverTimePattern : String := "%Y%m%dT%H%M%S%.3f %z"

/-- A server's timestamp in words, as seen from a moment. -/
def elapsedText? (raw : String) (now : Moment) : Option String := do
  let moment ← Moment.parse? serverTimePattern (Text.replace "GMT" "+0000" raw)
  let seconds := now.secondsSince moment
  let span := spanText seconds.natAbs
  return if 0 ≤ seconds then span ++ " ago" else "in " ++ span

end CaseForm
