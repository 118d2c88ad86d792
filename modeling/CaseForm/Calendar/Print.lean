import CaseForm.Calendar.Date
import CaseForm.Calendar.Pattern

/-!
Writing a date by a pattern.

A date has no time of day and no zone, so a pattern that names one of them cannot write it; nor
can one with an unknown specifier.
-/

namespace CaseForm.Calendar

/-- Fills a text up on the left. -/
def fill (width : Nat) (filler : Char) (cs : List Char) : List Char :=
  List.replicate (width - cs.length) filler ++ cs

/-- The text of a number with a padding; a sign stands before zeros and after blanks. -/
def Padding.apply (padding : Padding) (width : Nat) (sign : List Char) (n : Nat) : List Char :=
  let digits := Nat.toDigits 10 n
  match padding with
  | .none => sign ++ digits
  | .zero => sign ++ fill (width - sign.length) '0' digits
  | .space => fill width ' ' (sign ++ digits)

/-- The text of a year: a sign stands outside of 0 to 9999, and makes room for itself. -/
def yearDigits (padding : Padding) (year : Int) : List Char :=
  if 0 ≤ year ∧ year ≤ 9999 then padding.apply 4 [] year.natAbs
  else padding.apply 5 [if year < 0 then '-' else '+'] year.natAbs

/-- The text of a number below 256 in two places: the tens are one character, which goes past the
digits from 100 on. -/
def twoPlaces (padding : Padding) (n : Nat) : List Char :=
  let ones := Char.ofNat ('0'.toNat + n % 10)
  if n / 10 = 0 then
    match padding with
    | .none => [ones]
    | .space => [' ', ones]
    | .zero => ['0', ones]
  else [Char.ofNat ('0'.toNat + n / 10), ones]

/-- The text of a number field, if a date has it. -/
def NumberField.print (field : NumberField) (padding : Padding) (date : Date) :
    Option (List Char) :=
  match field with
  | .year => some (yearDigits padding date.year)
  | .century => some (twoPlaces padding ((date.year / 100) % 256).toNat)
  | .yearOfCentury => some (twoPlaces padding (date.year % 100).toNat)
  | .isoYear => some (yearDigits padding date.isoWeek.1)
  | .isoYearOfCentury => some (twoPlaces padding (date.isoWeek.1 % 100).toNat)
  | .quarter => some (Nat.toDigits 10 date.quarter)
  | .month => some (twoPlaces padding date.month)
  | .day => some (twoPlaces padding date.day)
  | .weekFromSunday => some (twoPlaces padding (date.weekFrom 6))
  | .weekFromMonday => some (twoPlaces padding (date.weekFrom 0))
  | .isoWeek => some (twoPlaces padding date.isoWeek.2)
  | .daysFromSunday => some (Nat.toDigits 10 ((date.weekday + 1) % 7))
  | .dayFromMonday => some (Nat.toDigits 10 (date.weekday + 1))
  | .ordinal => some (padding.apply 3 [] date.ordinal)
  | .hour | .hourOfHalf | .minute | .second | .nanosecond | .timestamp => none

/-- A name in full, or its first three letters. -/
def nameText (long : Bool) (names : List String) (index : Nat) : List Char :=
  let name := (names.getD index "").toList
  if long then name else name.take 3

/-- The text of an item, if a date has it. -/
def Item.print (date : Date) : Item → Option (List Char)
  | .literal c | .blank c => some [c]
  | .number field padding => field.print padding date
  | .monthName long => some (nameText long monthNames (date.month - 1))
  | .weekdayName long => some (nameText long weekdayNames date.weekday)
  | .halfDay | .fraction .. | .zoneName | .zoneOffset _ | .timeMark | .zoneOrUtc => none

/-- The text of items one after another. -/
def printItems (date : Date) : List Item → Option (List Char)
  | [] => some []
  | item :: items => do
    let first ← item.print date
    let rest ← printItems date items
    return first ++ rest

end CaseForm.Calendar

namespace CaseForm

/-- Writes a date by a pattern, if the pattern can write dates. -/
def Date.format? (date : Date) (pattern : String) : Option String := do
  let items ← Calendar.itemsOf pattern
  let cs ← Calendar.printItems date items
  return String.ofList cs

/-- A date and a pattern that cannot write dates. -/
structure UnwritableDate where
  date : Date
  pattern : String
  deriving DecidableEq, Repr

/-- Writes a date by a pattern, or says that the pattern cannot. -/
def Date.write (date : Date) (pattern : String) : Except UnwritableDate String :=
  match date.format? pattern with
  | some text => .ok text
  | none => .error ⟨date, pattern⟩

end CaseForm
