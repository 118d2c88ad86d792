import CaseForm.Calendar.Read

/-!
Moments: points in time, reckoned in UTC.

A minute may end with a leap second, which is kept as the 59th second with more than a second's
worth of nanoseconds.
-/

namespace CaseForm

/-- A point in time: the number of a day, the second of that day, and the nanoseconds since. -/
structure Moment where
  day : Int
  second : Int
  nanosecond : Int
  deriving DecidableEq, Repr

namespace Moment

/-- The day from which moments in milliseconds are counted, 1 January 1970. -/
def epochDay : Int := daysBeforeYear 1970 + 1

/-- The moment a number of milliseconds after the beginning of 1970. -/
def ofMilliseconds (milliseconds : Int) : Moment :=
  let seconds := milliseconds / 1000
  ⟨epochDay + seconds / 86400, seconds % 86400, milliseconds % 1000 * 1000000⟩

/-- The time of day that notes determine: its seconds, and the nanoseconds since. -/
def timeOfDay? (notes : Calendar.Notes) : Option (Int × Int) := do
  let half ← notes.get? .halfDay
  let hour ← notes.get? .hourOfHalf
  let minute ← notes.get? .minute
  let second := (notes.get? .second).getD 0
  let fraction ← match notes.get? .second, notes.get? .nanosecond with
    | none, some _ => none
    | _, noted => some (noted.getD 0)
  let (second, extra) := if second = 60 then (59, 1000000000) else (second, 0)
  return ((half * 12 + hour) * 3600 + minute * 60 + second, fraction + extra)

/-- The first and the last day that dates are kept for. -/
def dayRange : Int × Int := (daysBeforeYear (-262143) + 1, daysBeforeYear 262143)

/-- The moment that notes determine: a date, a time of day and an offset of less than a day. -/
def ofNotes? (notes : Calendar.Notes) : Option Moment := do
  let offset ← notes.get? .offset
  let date ← notes.date?
  let (second, nanosecond) ← timeOfDay? notes
  if offset ≤ -86400 ∨ 86400 ≤ offset then failure
  let utc := second - offset
  let day := date.dayNumber + utc / 86400
  if day < dayRange.1 ∨ dayRange.2 < day then failure
  return ⟨day, utc % 86400, nanosecond⟩

/-- The moment that a text is, read by a pattern. -/
def parse? (pattern text : String) : Option Moment :=
  (Calendar.notesOf pattern text).bind ofNotes?

/-- The seconds from one moment to a later one, without a fraction; negative where it is an earlier
one. A leap second between two times of day counts as a second of its own. -/
def secondsSince (now earlier : Moment) : Int :=
  let leap : Int :=
    if earlier.second < now.second ∧ 1000000000 ≤ earlier.nanosecond then 1
    else if now.second < earlier.second ∧ 1000000000 ≤ now.nanosecond then -1
    else 0
  let seconds := (now.day - earlier.day) * 86400 + (now.second - earlier.second) + leap
  Int.tdiv (seconds * 1000000000 + (now.nanosecond - earlier.nanosecond)) 1000000000

end Moment

end CaseForm
