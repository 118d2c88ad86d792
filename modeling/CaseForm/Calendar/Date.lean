/-!
Dates of the Gregorian calendar, reckoned backwards and forwards without a break.

A date is a year, a month and a day that exists (`Date.Exists`). Days are also counted through:
`Date.dayNumber` is 1 on the first day of the year 1, a Monday.
-/

namespace CaseForm

/-- Whether a year has a 29 February. -/
def isLeapYear (year : Int) : Bool :=
  year % 4 == 0 && (year % 100 != 0 || year % 400 == 0)

/-- The length of a year. -/
def daysInYear (year : Int) : Nat := if isLeapYear year then 366 else 365

/-- The length of a month, counted from 1. -/
def daysInMonth (year : Int) (month : Nat) : Nat :=
  match month with
  | 2 => if isLeapYear year then 29 else 28
  | 4 | 6 | 9 | 11 => 30
  | _ => 31

/-- The days of a year before a month. -/
def daysBeforeMonth (year : Int) : Nat → Nat
  | 0 | 1 => 0
  | month + 1 => daysBeforeMonth year month + daysInMonth year month

/-- The days before a year, counted from the year 1. -/
def daysBeforeYear (year : Int) : Int :=
  let past := year - 1
  365 * past + past / 4 - past / 100 + past / 400

/-- Whether a year, a month and a day make a date. The years are those that dates are kept for. -/
def Date.Exists (year : Int) (month day : Nat) : Prop :=
  -262143 ≤ year ∧ year ≤ 262142 ∧ 1 ≤ month ∧ month ≤ 12 ∧ 1 ≤ day ∧
    day ≤ daysInMonth year month

instance (year : Int) (month day : Nat) : Decidable (Date.Exists year month day) := by
  unfold Date.Exists; infer_instance

/-- A calendar date. -/
structure Date where
  year : Int
  month : Nat
  day : Nat
  real : Date.Exists year month day
  deriving DecidableEq, Repr

namespace Date

/-- The date of a year, a month and a day, if there is one. -/
def ofParts? (year : Int) (month day : Nat) : Option Date :=
  if h : Exists year month day then some ⟨year, month, day, h⟩ else none

/-- The position of a date in its year, from 1. -/
def ordinal (date : Date) : Nat := daysBeforeMonth date.year date.month + date.day

/-- The month and day at a position in a year, where `left` bounds the months yet to try. -/
def monthOfOrdinal (year : Int) (month ordinal : Nat) : Nat → Nat × Nat
  | 0 => (month, ordinal)
  | left + 1 =>
    if ordinal ≤ daysInMonth year month then (month, ordinal)
    else monthOfOrdinal year (month + 1) (ordinal - daysInMonth year month) left

/-- The date at a position in a year, if there is one. -/
def ofOrdinal? (year : Int) (ordinal : Nat) : Option Date :=
  if ordinal = 0 then none
  else
    let (month, day) := monthOfOrdinal year 1 ordinal 12
    ofParts? year month day

/-- The number of a date, counted from 1 on the first day of the year 1. -/
def dayNumber (date : Date) : Int := daysBeforeYear date.year + date.ordinal

/-- The day of the week of a numbered day, from 0 for Monday. -/
def weekdayOfNumber (number : Int) : Nat := ((number - 1) % 7).toNat

/-- The day of the week, from 0 for Monday. -/
def weekday (date : Date) : Nat := weekdayOfNumber date.dayNumber

/-- The days from one day of the week back to the last of another. -/
def weekdaysSince (weekday start : Nat) : Nat := (weekday + 7 - start) % 7

/-- The week of the year, where a week begins on the day `start` and the days before the first
such day make week 0. -/
def weekFrom (start : Nat) (date : Date) : Nat :=
  (date.ordinal + 6 - weekdaysSince date.weekday start) / 7

/-- A year and a position that may lie outside it, moved into the neighbouring year. -/
def settleOrdinal (year ordinal : Int) : Int × Nat :=
  if ordinal < 1 then (year - 1, (ordinal + daysInYear (year - 1)).toNat)
  else if (daysInYear year : Int) < ordinal then (year + 1, (ordinal - daysInYear year).toNat)
  else (year, ordinal.toNat)

/-- The year and number of a date's week, which belongs to the year that has its Thursday. -/
def isoWeek (date : Date) : Int × Nat :=
  let (year, ordinal) := settleOrdinal date.year (date.ordinal + 3 - date.weekday)
  (year, (ordinal - 1) / 7 + 1)

/-- The number of weeks that have their Thursday in a year. -/
def isoWeeksInYear (year : Int) : Nat :=
  let first := weekdayOfNumber (daysBeforeYear year + 1)
  if first = 3 ∨ (first = 2 ∧ isLeapYear year) then 53 else 52

/-- The date of a weekday in a week of the year that has the week's Thursday, if there is one. -/
def ofIsoWeek? (year : Int) (week weekday : Nat) : Option Date :=
  if week = 0 ∨ isoWeeksInYear year < week then none
  else
    let fourth := weekdayOfNumber (daysBeforeYear year + 4)
    let monday : Int := 4 - fourth
    let (year, ordinal) := settleOrdinal year (monday + 7 * (week - 1 : Nat) + weekday)
    ofOrdinal? year ordinal

/-- The date of a weekday in a week that begins on the day `start`, if the year has it. -/
def ofWeek? (start : Nat) (year : Int) (week weekday : Nat) : Option Date :=
  let first := weekdayOfNumber (daysBeforeYear year + 1)
  let weekOne : Int := 1 + weekdaysSince start first
  let ordinal := weekOne + 7 * ((week : Int) - 1) + weekdaysSince weekday start
  if ordinal ≤ 0 then none else ofOrdinal? year ordinal.toNat

/-- The quarter of the year, from 1. -/
def quarter (date : Date) : Nat := (date.month - 1) / 3 + 1

theorem ofParts?_self (date : Date) : ofParts? date.year date.month date.day = some date := by
  simp [ofParts?, date.real]

end Date

/-- Digits filled up with zeros on the left. -/
def zeroPadded (width n : Nat) : List Char :=
  let digits := Nat.toDigits 10 n
  List.replicate (width - digits.length) '0' ++ digits

/-- The written form of a year: four digits, and outside of 0 to 9999 a sign. -/
def yearText (year : Int) : List Char :=
  if 0 ≤ year ∧ year ≤ 9999 then zeroPadded 4 year.natAbs
  else (if year < 0 then '-' else '+') :: zeroPadded 4 year.natAbs

/-- The written form of a date: year, month and day with hyphens. -/
def Date.text (date : Date) : String :=
  String.ofList (yearText date.year ++ '-' :: zeroPadded 2 date.month ++ '-' ::
    zeroPadded 2 date.day)

end CaseForm
