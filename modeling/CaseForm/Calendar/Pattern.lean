import CaseForm.Text.Blank

/-!
Patterns: how dates and times are written, given as a text with `%` specifiers.

A pattern is a sequence of items. Some specifiers stand for several items at once, and one that
stands for a single number may carry a mark for its padding. A pattern with an unknown or unfinished
specifier has no items: nothing can be read or written by it.
-/

namespace CaseForm.Calendar

/-- How a number is filled up. -/
inductive Padding where
  | none
  | zero
  | space
  deriving DecidableEq, Repr

/-- The numbers that a pattern can name. -/
inductive NumberField where
  | year
  | century
  | yearOfCentury
  | isoYear
  | isoYearOfCentury
  | quarter
  | month
  | day
  | weekFromSunday
  | weekFromMonday
  | isoWeek
  | daysFromSunday
  | dayFromMonday
  | ordinal
  | hour
  | hourOfHalf
  | minute
  | second
  | nanosecond
  | timestamp
  deriving DecidableEq, Repr

/-- One item of a pattern. -/
inductive Item where
  | literal (c : Char)
  /-- A blank, which stands for any number of blanks when reading. -/
  | blank (c : Char)
  | number (field : NumberField) (padding : Padding)
  /-- The name of a month; `long` is the whole of it, else its first three letters. -/
  | monthName (long : Bool)
  | weekdayName (long : Bool)
  /-- The half of the day. -/
  | halfDay
  /-- A fraction of the second: its number of digits, if fixed, and whether a point leads it. -/
  | fraction (digits : Option Nat) (pointed : Bool)
  | zoneName
  /-- The offset from UTC; a lenient one may be `Z` or lack its minutes. -/
  | zoneOffset (lenient : Bool)
  /-- What stands between the date and the time of a timestamp. -/
  | timeMark
  /-- An offset from UTC, or the name of UTC. -/
  | zoneOrUtc
  deriving DecidableEq, Repr

/-- What the characters after a `%` amount to. -/
inductive Specifier where
  | complete (items : List Item)
  /-- More characters are needed. -/
  | unfinished
  | unknown

namespace Item

/-- A number filled up with zeros. -/
def zeros (field : NumberField) : Item := .number field .zero

/-- A number filled up with blanks. -/
def spaces (field : NumberField) : Item := .number field .space

/-- A number as it is. -/
def plain (field : NumberField) : Item := .number field .none

/-- A date from the year down, with hyphens. -/
def yearMonthDay : List Item :=
  [zeros .year, .literal '-', zeros .month, .literal '-', zeros .day]

/-- A date with slashes, the month first and the year in two places. -/
def monthDayYear : List Item :=
  [zeros .month, .literal '/', zeros .day, .literal '/', zeros .yearOfCentury]

/-- A time of day to the minute. -/
def hourMinute : List Item := [zeros .hour, .literal ':', zeros .minute]

/-- A time of day to the second. -/
def hourMinuteSecond : List Item := hourMinute ++ [.literal ':', zeros .second]

/-- A timestamp with date, time and offset, with blanks where they do no harm. -/
def timestamp : List Item :=
  [zeros .year, .blank ' ', .literal '-', zeros .month, .blank ' ', .literal '-', zeros .day,
    .timeMark, zeros .hour, .blank ' ', .literal ':', zeros .minute, .blank ' ', .literal ':',
    zeros .second, .fraction none true, .blank ' ', .blank ' ', .zoneOrUtc]

end Item

namespace Specifier

/-- What a single letter stands for. -/
def ofLetter (c : Char) : Option (List Item) :=
  match c with
  | 'A' => some [.weekdayName true]
  | 'B' => some [.monthName true]
  | 'C' => some [.zeros .century]
  | 'D' | 'x' => some Item.monthDayYear
  | 'F' => some Item.yearMonthDay
  | 'G' => some [.zeros .isoYear]
  | 'H' => some [.zeros .hour]
  | 'I' => some [.zeros .hourOfHalf]
  | 'M' => some [.zeros .minute]
  | 'P' | 'p' => some [.halfDay]
  | 'R' => some Item.hourMinute
  | 'S' => some [.zeros .second]
  | 'T' | 'X' => some Item.hourMinuteSecond
  | 'U' => some [.zeros .weekFromSunday]
  | 'V' => some [.zeros .isoWeek]
  | 'W' => some [.zeros .weekFromMonday]
  | 'Y' => some [.zeros .year]
  | 'Z' => some [.zoneName]
  | 'a' => some [.weekdayName false]
  | 'b' | 'h' => some [.monthName false]
  | 'c' =>
    some ([.weekdayName false, .blank ' ', .monthName false, .blank ' ', .spaces .day, .blank ' '] ++
      Item.hourMinuteSecond ++ [.blank ' ', .zeros .year])
  | 'd' => some [.zeros .day]
  | 'e' => some [.spaces .day]
  | 'f' => some [.zeros .nanosecond]
  | 'g' => some [.zeros .isoYearOfCentury]
  | 'j' => some [.zeros .ordinal]
  | 'k' => some [.spaces .hour]
  | 'l' => some [.spaces .hourOfHalf]
  | 'm' => some [.zeros .month]
  | 'n' => some [.blank '\n']
  | 'q' => some [.plain .quarter]
  | 'r' =>
    some [.zeros .hourOfHalf, .literal ':', .zeros .minute, .literal ':', .zeros .second,
      .blank ' ', .halfDay]
  | 's' => some [.plain .timestamp]
  | 't' => some [.blank '\t']
  | 'u' => some [.plain .dayFromMonday]
  | 'v' =>
    some [.spaces .day, .literal '-', .monthName false, .literal '-', .zeros .year]
  | 'w' => some [.plain .daysFromSunday]
  | 'y' => some [.zeros .yearOfCentury]
  | 'z' => some [.zoneOffset false]
  | '+' => some Item.timestamp
  | '%' => some [.literal '%']
  | _ => none

/-- A single number with another padding; nothing else can be padded. -/
def padded (padding : Padding) (c : Char) : Specifier :=
  match ofLetter c with
  | some [.number field _] => .complete [.number field padding]
  | _ => .unknown

/-- What the characters after a `%` amount to. -/
def ofChars : List Char → Specifier
  | [] => .unfinished
  | ['-'] | ['0'] | ['_'] | ['#'] | ['.'] | ['3'] | ['6'] | ['9'] | [':'] => .unfinished
  | ['-', c] => padded .none c
  | ['0', c] => padded .zero c
  | ['_', c] => padded .space c
  | ['#', 'z'] => .complete [.zoneOffset true]
  | ['.', 'f'] => .complete [.fraction none true]
  | ['.', '3'] | ['.', '6'] | ['.', '9'] => .unfinished
  | ['.', '3', 'f'] => .complete [.fraction (some 3) true]
  | ['.', '6', 'f'] => .complete [.fraction (some 6) true]
  | ['.', '9', 'f'] => .complete [.fraction (some 9) true]
  | ['3', 'f'] => .complete [.fraction (some 3) false]
  | ['6', 'f'] => .complete [.fraction (some 6) false]
  | ['9', 'f'] => .complete [.fraction (some 9) false]
  | [':', ':'] | [':', ':', ':'] => .unfinished
  | [':', 'z'] | [':', ':', 'z'] | [':', ':', ':', 'z'] => .complete [.zoneOffset false]
  | [c] =>
    match ofLetter c with
    | some items => .complete items
    | none => .unknown
  | _ => .unknown

end Specifier

/-- The items of a pattern; `pending` are the characters since an unfinished `%`. -/
def readItems : (pending : Option (List Char)) → List Char → Option (List Item)
  | none, [] => some []
  | some _, [] => none
  | none, c :: rest =>
    if c = '%' then readItems (some []) rest
    else (readItems none rest).map ((if Text.isBlank c then .blank c else .literal c) :: ·)
  | some pending, c :: rest =>
    match Specifier.ofChars (pending ++ [c]) with
    | .complete items => (readItems none rest).map (items ++ ·)
    | .unfinished => readItems (some (pending ++ [c])) rest
    | .unknown => none

/-- The items of a pattern, if it has no unknown or unfinished specifier. -/
def itemsOf (pattern : String) : Option (List Item) := readItems none pattern.toList

/-- The names of the months. -/
def monthNames : List String :=
  ["January", "February", "March", "April", "May", "June", "July", "August", "September",
    "October", "November", "December"]

/-- The names of the days of the week, from Monday. -/
def weekdayNames : List String :=
  ["Monday", "Tuesday", "Wednesday", "Thursday", "Friday", "Saturday", "Sunday"]

end CaseForm.Calendar
