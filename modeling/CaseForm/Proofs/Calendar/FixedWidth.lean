import CaseForm.Calendar.Print
import CaseForm.Calendar.Read
import Mathlib.Data.List.TakeWhile

/-!
Dates in numbers of a fixed width.

A number that is filled up with zeros takes as many digits as its field reads. So it is read back
whatever follows it (`NumberField.scan_zeroPadded`), and a date needs nothing between its year, its
month and its day as long as the year has four digits: what such a text says is the date and nothing
else (`notesOf_compact`), and the date follows from it.

* `Date.parse?_compact`: a date without separators is read back;
* `Date.write_compact`, `Date.write_slashed`: how dates are written, without separators and with
  slashes.
-/

namespace CaseForm

/-! ### Numbers filled up with zeros -/

section ZeroPadded

variable {width n : Nat}

theorem length_zeroPadded (short : (Nat.toDigits 10 n).length ≤ width) :
    (zeroPadded width n).length = width := by
  simp only [zeroPadded, List.length_append, List.length_replicate]
  omega

theorem zeroPadded_ne_nil (width n : Nat) : zeroPadded width n ≠ [] := by
  intro nil
  exact Nat.toDigits_ne_nil (List.append_eq_nil_iff.1 nil).2

theorem isDigit_of_mem_zeroPadded {c : Char} (mem : c ∈ zeroPadded width n) :
    c.isDigit = true := by
  rcases List.mem_append.1 mem with zero | digit
  · rw [List.eq_of_mem_replicate zero]
    rfl
  · exact Nat.isDigit_of_mem_toDigits (by decide) (by decide) digit

/-- The zeros in front do not count. -/
theorem ofDigitChars_zeroPadded (width n : Nat) :
    Nat.ofDigitChars 10 (zeroPadded width n) 0 = n := by
  rw [zeroPadded, Nat.ofDigitChars_append, Nat.ofDigitChars_replicate_zero, Nat.mul_zero,
    Nat.ofDigitChars_ten_toDigits]

end ZeroPadded

theorem Text.isBlank_of_isDigit {c : Char} (digit : c.isDigit = true) : isBlank c = false := by
  have bounds := Char.isDigit_iff_toNat.1 digit
  have zero : '0'.toNat = 48 := rfl
  have nine : '9'.toNat = 57 := rfl
  simp only [isBlank, Bool.or_eq_false_iff, Bool.and_eq_false_iff, beq_eq_false_iff_ne, ne_eq,
    decide_eq_false_iff_not]
  omega

namespace Date

/-- The year, the month and the day of a date in eight digits. -/
def compact (date : Date) : List Char :=
  zeroPadded 4 date.year.natAbs ++ (zeroPadded 2 date.month ++ zeroPadded 2 date.day)

/-- The month, the day and the year of a date with slashes between them. -/
def slashed (date : Date) : List Char :=
  zeroPadded 2 date.month ++ '/' :: (zeroPadded 2 date.day ++ '/' :: zeroPadded 4 date.year.natAbs)

/-- The year of the date has at most four digits and no sign. -/
def FourDigits (date : Date) : Prop := 0 ≤ date.year ∧ date.year ≤ 9999

instance (date : Date) : Decidable date.FourDigits :=
  inferInstanceAs (Decidable (0 ≤ date.year ∧ date.year ≤ 9999))

/-- No month has more than 31 days. -/
theorem bounds (date : Date) :
    1 ≤ date.month ∧ date.month ≤ 12 ∧ 1 ≤ date.day ∧ date.day ≤ 31 := by
  obtain ⟨-, -, leastMonth, mostMonth, leastDay, mostDay⟩ := date.real
  have longest : daysInMonth date.year date.month ≤ 31 := by
    unfold daysInMonth
    grind
  exact ⟨leastMonth, mostMonth, leastDay, by omega⟩

end Date

namespace Calendar

/-! ### Reading a number -/

section Scan

variable {width n : Nat} (short : (Nat.toDigits 10 n).length ≤ width)
  (small : n < 0x8000000000000000)

include short small

/-- All digits are taken, and nothing of what follows. -/
theorem scanNumber_zeroPadded (rest : List Char) :
    scanNumber width (zeroPadded width n ++ rest) = some (n, rest) := by
  have length := length_zeroPadded short
  have taken : (zeroPadded width n ++ rest).take width = zeroPadded width n :=
    List.take_left' length
  have digits : (zeroPadded width n).takeWhile Char.isDigit = zeroPadded width n :=
    List.takeWhile_eq_self_iff.2 fun c mem => isDigit_of_mem_zeroPadded mem
  simp only [scanNumber, taken, digits, ofDigitChars_zeroPadded]
  rw [if_neg, List.drop_left' rfl]
  rintro (nil | great)
  · exact zeroPadded_ne_nil _ _ nil
  · omega

/-- A number of the width of its field is noted, and what follows it is left. -/
theorem NumberField.scan_zeroPadded {field : NumberField} (wide : field.width = some width)
    (rest : List Char) (notes : Notes) :
    field.scan (zeroPadded width n ++ rest, notes) =
      (field.note n notes).map fun notes => (rest, notes) := by
  have number := scanNumber_zeroPadded short small rest
  cases split : zeroPadded width n with
  | nil => exact absurd split (zeroPadded_ne_nil _ _)
  | cons c others =>
    have mem : c ∈ zeroPadded width n := by
      rw [split]
      exact List.mem_cons_self
    have digit := isDigit_of_mem_zeroPadded mem
    have unblank : Text.skipBlanks (c :: others ++ rest) = c :: others ++ rest := by
      simp [Text.skipBlanks, Text.isBlank_of_isDigit digit]
    rw [split] at number
    simp only [scan, unblank, wide, Option.getD_some]
    split
    · next sign =>
      cases sign
      cases digit
    · next sign =>
      cases sign
      cases digit
    · rw [number]
      cases noted : field.note n notes <;> simp [noted]

/-- A number within the bounds of its field is noted as it is, if nothing was noted before. -/
theorem NumberField.scan_new {field : NumberField} {quantity : Quantity} {low high : Int}
    {notes : Notes} (wide : field.width = some width)
    (noted : field.note n notes = noteWithin low high quantity n notes)
    (least : low ≤ n) (most : n ≤ high) (new : notes.get? quantity = none) (rest : List Char) :
    field.scan (zeroPadded width n ++ rest, notes) =
      some (rest, (quantity, (n : Int)) :: notes) := by
  rw [scan_zeroPadded short small wide, noted, noteWithin, if_pos (And.intro least most), Notes.put,
    new]
  rfl

end Scan

/-! ### Dates -/

variable {date : Date}

theorem twoPlaces_zero : ∀ {n : Nat}, n < 100 → twoPlaces .zero n = zeroPadded 2 n := by
  decide

theorem twoPlaces_month (date : Date) : twoPlaces .zero date.month = zeroPadded 2 date.month := by
  obtain ⟨-, most, -, -⟩ := date.bounds
  exact twoPlaces_zero (by omega)

theorem twoPlaces_day (date : Date) : twoPlaces .zero date.day = zeroPadded 2 date.day := by
  obtain ⟨-, -, -, most⟩ := date.bounds
  exact twoPlaces_zero (by omega)

theorem yearDigits_zero (four : date.FourDigits) :
    yearDigits .zero date.year = zeroPadded 4 date.year.natAbs := by
  rw [yearDigits, if_pos (And.intro four.1 four.2)]
  rfl

/-- A month or a day has at most two digits. -/
theorem length_toDigits_le_two {n : Nat} (small : n < 100) : (Nat.toDigits 10 n).length ≤ 2 :=
  (Nat.length_toDigits_le_iff (by decide) (by decide)).2 small

theorem itemsOf_compact : itemsOf "%Y%m%d" = some [.zeros .year, .zeros .month, .zeros .day] := by
  decide

theorem itemsOf_slashed : itemsOf "%m/%d/%Y" =
    some [.zeros .month, .literal '/', .zeros .day, .literal '/', .zeros .year] := by
  decide

/-- What a date without separators says, the last first. -/
def dateNotes (date : Date) : Notes := [(.day, date.day), (.month, date.month), (.year, date.year)]

/-- By the pattern of stored dates, a date without separators says its year, its month and its day,
and nothing else. -/
theorem notesOf_compact (four : date.FourDigits) :
    notesOf "%Y%m%d" (String.ofList date.compact) = some (dateNotes date) := by
  obtain ⟨leastYear, mostYear⟩ := four
  obtain ⟨leastMonth, mostMonth, leastDay, mostDay⟩ := date.bounds
  have short : (Nat.toDigits 10 date.year.natAbs).length ≤ 4 :=
    (Nat.length_toDigits_le_iff (by decide) (by decide)).2 (by omega)
  have year (rest : List Char) :
      NumberField.year.scan (zeroPadded 4 date.year.natAbs ++ rest, []) =
        some (rest, [(.year, date.year)]) := by
    rw [NumberField.scan_new short (by omega) rfl rfl (by omega) (by omega) rfl,
      Int.natAbs_of_nonneg leastYear]
  have month (rest : List Char) :
      NumberField.month.scan (zeroPadded 2 date.month ++ rest, [(.year, date.year)]) =
        some (rest, [(.month, (date.month : Int)), (.year, date.year)]) :=
    NumberField.scan_new (length_toDigits_le_two (by omega)) (by omega) rfl rfl (by omega)
      (by omega) rfl rest
  have day :
      NumberField.day.scan
          (zeroPadded 2 date.day ++ [], [(.month, (date.month : Int)), (.year, date.year)]) =
        some ([], dateNotes date) :=
    NumberField.scan_new (length_toDigits_le_two (by omega)) (by omega) rfl rfl (by omega)
      (by omega) rfl []
  rw [List.append_nil] at day
  simp [notesOf, itemsOf_compact, Date.compact, scanItems, Item.scan, Item.zeros, year, month, day]

/-- A year, a month and a day determine their date. -/
theorem date?_dateNotes (date : Date) : (dateNotes date).date? = some date := by
  simp [dateNotes, Notes.date?, resolveYear, Notes.get?, Notes.choose, Date.ofParts?_self,
    Notes.agreesOnDay, Notes.agreesOnYear, Notes.agreesOnIsoWeek, Notes.agreesOnOrdinal,
    Notes.agrees]

end Calendar

namespace Date

open Calendar

variable {date : Date}

/-- A date without separators is read back by the pattern of stored dates. -/
theorem parse?_compact (four : date.FourDigits) :
    parse? "%Y%m%d" (String.ofList date.compact) = some date := by
  rw [parse?, notesOf_compact four, Option.bind_some, date?_dateNotes]

/-- By the pattern of stored dates, a date is written without separators. -/
theorem write_compact (four : date.FourDigits) :
    date.write "%Y%m%d" = .ok (String.ofList date.compact) := by
  simp [write, format?, itemsOf_compact, printItems, Item.print, Item.zeros, NumberField.print,
    yearDigits_zero four, twoPlaces_month, twoPlaces_day, compact]

/-- By the pattern of displayed dates, a date is written with slashes. -/
theorem write_slashed (four : date.FourDigits) :
    date.write "%m/%d/%Y" = .ok (String.ofList date.slashed) := by
  simp [write, format?, itemsOf_slashed, printItems, Item.print, Item.zeros, NumberField.print,
    yearDigits_zero four, twoPlaces_month, twoPlaces_day, slashed]

end Date

end CaseForm
