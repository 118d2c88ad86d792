import CaseForm.Calendar.Date
import CaseForm.Calendar.Pattern

/-!
Reading dates by a pattern.

Each item of the pattern takes its part of the text and may note quantities. A quantity noted twice
has to have one value. The date then follows from the first sufficient choice of quantities (month
and day, position in the year, week and weekday), and has to agree with everything else that was
noted.
-/

namespace CaseForm.Calendar

/-- What a text says about a date and a time. -/
inductive Quantity where
  | year
  | century
  | yearOfCentury
  | isoYear
  | isoYearOfCentury
  | quarter
  | month
  | day
  | weekFromSunday
  | weekFromMonday
  | isoWeek
  /-- The day of the week, from 0 for Monday. -/
  | weekday
  | ordinal
  /-- The half of the day, 0 or 1. -/
  | halfDay
  /-- The hour in its half of the day, from 0. -/
  | hourOfHalf
  | minute
  | second
  | nanosecond
  | timestamp
  /-- The offset from UTC in seconds. -/
  | offset
  deriving DecidableEq, Repr

/-- The quantities that have been noted. -/
abbrev Notes := List (Quantity × Int)

namespace Notes

/-- The value of a quantity, if it has been noted. -/
def get? (quantity : Quantity) : Notes → Option Int
  | [] => none
  | (q, value) :: rest => if q = quantity then some value else get? quantity rest

/-- Notes a quantity, unless another value has been noted for it. -/
def put (quantity : Quantity) (value : Int) (notes : Notes) : Option Notes :=
  match get? quantity notes with
  | none => some ((quantity, value) :: notes)
  | some old => if old = value then some notes else none

/-- Whether a quantity, if it has been noted, has a value. -/
def agrees (notes : Notes) (quantity : Quantity) (value : Int) : Bool :=
  match get? quantity notes with
  | none => true
  | some noted => noted == value

end Notes

/-- The rest of a text and what has been noted. -/
abbrev Scan := List Char × Notes

/-! ### Items -/

/-- Takes digits, at least one and at most `width`, whose number fits into 64 bits. -/
def scanNumber (width : Nat) (cs : List Char) : Option (Nat × List Char) :=
  let digits := (cs.take width).takeWhile Char.isDigit
  let value := Nat.ofDigitChars 10 digits 0
  if digits = [] ∨ 0x8000000000000000 ≤ value then none else some (value, cs.drop digits.length)

/-- The most digits that a number field takes; `none` for any number of them. -/
def NumberField.width : NumberField → Option Nat
  | .year | .isoYear => some 4
  | .quarter | .daysFromSunday | .dayFromMonday => some 1
  | .ordinal => some 3
  | .nanosecond => some 9
  | .timestamp => none
  | _ => some 2

/-- Whether a number field may have a sign, and then any number of digits. -/
def NumberField.signed : NumberField → Bool
  | .year | .isoYear => true
  | _ => false

/-- Notes a quantity if its value lies in a range. -/
def noteWithin (low high : Int) (quantity : Quantity) (value : Int) (notes : Notes) :
    Option Notes :=
  if low ≤ value ∧ value ≤ high then notes.put quantity value else none

/-- Notes what the value of a number field says. -/
def NumberField.note (field : NumberField) (value : Int) (notes : Notes) : Option Notes :=
  match field with
  | .year => noteWithin (-0x80000000) 0x7fffffff .year value notes
  | .isoYear => noteWithin (-0x80000000) 0x7fffffff .isoYear value notes
  | .century => noteWithin 0 99 .century value notes
  | .yearOfCentury => noteWithin 0 99 .yearOfCentury value notes
  | .isoYearOfCentury => noteWithin 0 99 .isoYearOfCentury value notes
  | .quarter => noteWithin 1 4 .quarter value notes
  | .month => noteWithin 1 12 .month value notes
  | .day => noteWithin 1 31 .day value notes
  | .weekFromSunday => noteWithin 0 53 .weekFromSunday value notes
  | .weekFromMonday => noteWithin 0 53 .weekFromMonday value notes
  | .isoWeek => noteWithin 1 53 .isoWeek value notes
  | .daysFromSunday =>
    if value ≤ 6 then notes.put .weekday ((value + 6) % 7) else none
  | .dayFromMonday => noteWithin 0 6 .weekday (value - 1) notes
  | .ordinal => noteWithin 1 366 .ordinal value notes
  | .hour =>
    if value ≤ 23 then (notes.put .halfDay (value / 12)).bind (·.put .hourOfHalf (value % 12))
    else none
  | .hourOfHalf => if 1 ≤ value ∧ value ≤ 12 then notes.put .hourOfHalf (value % 12) else none
  | .minute => noteWithin 0 59 .minute value notes
  | .second => noteWithin 0 60 .second value notes
  | .nanosecond => notes.put .nanosecond value
  | .timestamp => notes.put .timestamp value

/-- Reads a number field: blanks, a sign where one is allowed, and digits. -/
def NumberField.scan (field : NumberField) : Scan → Option Scan
  | (cs, notes) => do
    let cs := Text.skipBlanks cs
    let (value, rest) ← match field.signed, cs with
      | true, '-' :: digits => (scanNumber digits.length digits).map fun r => (-(r.1 : Int), r.2)
      | true, '+' :: digits => (scanNumber digits.length digits).map fun r => ((r.1 : Int), r.2)
      | _, digits =>
        (scanNumber (field.width.getD digits.length) digits).map fun r => ((r.1 : Int), r.2)
    let notes ← field.note value notes
    return (rest, notes)

/-- Takes a phrase whatever the case of its letters. -/
def scanPhrase (phrase cs : List Char) : Option (List Char) :=
  let head := cs.take phrase.length
  if head.map Char.toLower = phrase.map Char.toLower then some (cs.drop phrase.length) else none

/-- Takes the first three letters of one of the names, and gives the name's position. -/
def scanShortName (names : List String) (position : Nat) (cs : List Char) :
    Option (Nat × List Char) :=
  match names with
  | [] => none
  | name :: names =>
    match scanPhrase (name.toList.take 3) cs with
    | some rest => some (position, rest)
    | none => scanShortName names (position + 1) cs

/-- Takes a name in full, or its first three letters. -/
def scanName (long : Bool) (names : List String) (cs : List Char) : Option (Nat × List Char) :=
  match scanShortName names 0 cs with
  | none => none
  | some (position, rest) =>
    if long then
      match scanPhrase ((names.getD position "").toList.drop 3) rest with
      | some rest => some (position, rest)
      | none => some (position, rest)
    else some (position, rest)

/-- Reads the digits of a fraction as nanoseconds. -/
def scanFraction (digits : Option Nat) (cs : List Char) : Option (Nat × List Char) := do
  match digits with
  | some count =>
    let (value, rest) ← scanNumber count cs
    if cs.length - rest.length = count then return (value * Nat.pow 10 (9 - count), rest)
    else failure
  | none =>
    let (value, rest) ← scanNumber 9 cs
    return (value * Nat.pow 10 (9 - (cs.length - rest.length)), rest.dropWhile Char.isDigit)

/-- The number of two digits. -/
def twoDigits? (a b : Char) : Option Nat :=
  if a.isDigit ∧ b.isDigit then some (Nat.ofDigitChars 10 [a, b] 0) else none

/-- Reads an offset from UTC in seconds: a sign, two digits of hours, colons or blanks, and two
digits of minutes. -/
def scanOffset (zulu missingMinutes : Bool) (cs : List Char) : Option (Int × List Char) := do
  match cs with
  | [] => failure
  | c :: rest =>
    if zulu && (c == 'Z' || c == 'z') then return (0, rest)
    let sign : Int ← if c == '+' then some 1 else if c == '-' || c == '−' then some (-1) else none
    match rest with
    | h :: k :: rest =>
      let hours ← twoDigits? h k
      match rest.dropWhile fun c => c == ':' || Text.isBlank c with
      | m :: n :: rest =>
        let minutes ← twoDigits? m n
        if 60 ≤ minutes then failure
        return (sign * (hours * 3600 + minutes * 60), rest)
      | [] => if missingMinutes then return (sign * (hours * 3600), []) else failure
      | _ => failure
    | _ => failure

/-- Reads an item. -/
def Item.scan : Item → Scan → Option Scan
  | .literal c, (cs, notes) =>
    match cs with
    | d :: rest => if d = c then some (rest, notes) else none
    | [] => none
  | .blank _, (cs, notes) => some (Text.skipBlanks cs, notes)
  | .number field _, scan => field.scan scan
  | .monthName long, (cs, notes) => do
    let (position, rest) ← scanName long monthNames cs
    return (rest, ← notes.put .month (position + 1))
  | .weekdayName long, (cs, notes) => do
    let (position, rest) ← scanName long weekdayNames cs
    return (rest, ← notes.put .weekday position)
  | .halfDay, (cs, notes) =>
    match scanPhrase ['a', 'm'] cs with
    | some rest => (notes.put .halfDay 0).map fun notes => (rest, notes)
    | none => do
      let rest ← scanPhrase ['p', 'm'] cs
      return (rest, ← notes.put .halfDay 1)
  | .fraction digits true, (cs, notes) =>
    match cs with
    | '.' :: rest => do
      let (value, rest) ← scanFraction digits rest
      return (rest, ← notes.put .nanosecond value)
    | _ => some (cs, notes)
  | .fraction digits false, (cs, notes) => do
    let (value, rest) ← scanFraction digits cs
    return (rest, ← notes.put .nanosecond value)
  | .zoneName, (cs, notes) => some (cs.dropWhile fun c => !Text.isBlank c, notes)
  | .zoneOffset lenient, (cs, notes) => do
    let (value, rest) ← scanOffset lenient lenient (Text.skipBlanks cs)
    return (rest, ← notes.put .offset value)
  | .timeMark, (cs, notes) =>
    match cs with
    | 't' :: rest | 'T' :: rest | ' ' :: rest => some (rest, notes)
    | _ => none
  | .zoneOrUtc, (cs, notes) =>
    match scanPhrase ['U', 'T', 'C'] cs with
    | some rest => (notes.put .offset 0).map fun notes => (rest, notes)
    | none => do
      let (value, rest) ← scanOffset true false cs
      return (rest, ← notes.put .offset value)

/-- Reads items one after another. -/
def scanItems : List Item → Scan → Option Scan
  | [], scan => some scan
  | item :: items, scan => (item.scan scan).bind (scanItems items)

/-- What a whole text says, read by a pattern. -/
def notesOf (pattern text : String) : Option Notes := do
  let items ← itemsOf pattern
  let (rest, notes) ← scanItems items (text.toList, [])
  if rest = [] then return notes else failure

/-! ### The date -/

/-- The year that a year, a century and a year of the century make up: `none` if they contradict
one another or do not suffice, `some none` if none of them is given. A year of the century alone
lies between 1970 and 2069. -/
def resolveYear (year century ofCentury : Option Int) : Option (Option Int) :=
  match year, century, ofCentury with
  | year, none, none => some year
  | some year, century, ofCentury =>
    if 0 ≤ year ∧ century.getD (year / 100) = year / 100 ∧ ofCentury.getD (year % 100) = year % 100
    then some (some year) else none
  | none, some century, some ofCentury => some (some (century * 100 + ofCentury))
  | none, none, some ofCentury => some (some (ofCentury + if ofCentury < 70 then 2000 else 1900))
  | none, some _, none => none

namespace Notes

/-- Whether a year agrees with the notes on years, its century and its place in it. Years before 0
have neither. -/
def agreesOnYear (notes : Notes) (full hundreds ofCentury : Quantity) (year : Int) : Bool :=
  notes.agrees full year &&
    (if 0 ≤ year then
      notes.agrees hundreds (year / 100) && notes.agrees ofCentury (year % 100)
    else (notes.get? hundreds).isNone && (notes.get? ofCentury).isNone)

/-- Whether a date agrees with the notes on year, month and day. -/
def agreesOnDay (notes : Notes) (date : Date) : Bool :=
  notes.agreesOnYear .year .century .yearOfCentury date.year &&
    notes.agrees .month date.month && notes.agrees .day date.day

/-- Whether a date agrees with the notes on its week and weekday. -/
def agreesOnIsoWeek (notes : Notes) (date : Date) : Bool :=
  notes.agrees .isoYear date.isoWeek.1 &&
    (if 0 ≤ date.isoWeek.1 then notes.agrees .isoYearOfCentury (date.isoWeek.1 % 100)
    else (notes.get? .isoYearOfCentury).isNone) &&
    notes.agrees .isoWeek date.isoWeek.2 && notes.agrees .weekday date.weekday

/-- Whether a date agrees with the notes on its place in the year. -/
def agreesOnOrdinal (notes : Notes) (date : Date) : Bool :=
  notes.agrees .ordinal date.ordinal && notes.agrees .weekFromSunday (date.weekFrom 6) &&
    notes.agrees .weekFromMonday (date.weekFrom 0)

/-- The date that the notes determine: by month and day, else by the position in the year, else by
a week and a weekday, and no further choice is tried when one fails. -/
def choose (notes : Notes) (year isoYear : Option Int) : Option Date :=
  let get (quantity : Quantity) : Option Nat := (notes.get? quantity).map Int.toNat
  match year, get .month, get .day, get .ordinal, get .weekFromSunday, get .weekFromMonday,
    get .weekday with
  | some year, some month, some day, _, _, _, _ => Date.ofParts? year month day
  | some year, _, _, some ordinal, _, _, _ => Date.ofOrdinal? year ordinal
  | some year, _, _, _, some week, _, some weekday => Date.ofWeek? 6 year week weekday
  | some year, _, _, _, _, some week, some weekday => Date.ofWeek? 0 year week weekday
  | _, _, _, _, _, _, some weekday =>
    match isoYear, get .isoWeek with
    | some isoYear, some week => Date.ofIsoWeek? isoYear week weekday
    | _, _ => none
  | _, _, _, _, _, _, none => none

/-- The date that the notes determine and agree with. -/
def date? (notes : Notes) : Option Date := do
  let year ← resolveYear (notes.get? .year) (notes.get? .century) (notes.get? .yearOfCentury)
  let isoYear ← resolveYear (notes.get? .isoYear) none (notes.get? .isoYearOfCentury)
  let date ← notes.choose year isoYear
  if notes.agreesOnDay date && notes.agreesOnIsoWeek date && notes.agreesOnOrdinal date &&
    notes.agrees .quarter date.quarter then return date else failure

end Notes

end CaseForm.Calendar

namespace CaseForm

/-- The date that a text is, read by a pattern. -/
def Date.parse? (pattern text : String) : Option Date :=
  (Calendar.notesOf pattern text).bind Calendar.Notes.date?

end CaseForm
