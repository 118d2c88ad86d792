import CaseForm.Calendar.Elapsed
import Mathlib.Data.List.Basic

/-!
Which spans of time are counted, and how far.

A span is named by one unit with an article, or by a number of units. Where a name ends is measured
in a smaller unit than the name is in: a span is a number of hours from 90 minutes on, and a number
of days from 36 hours on. The span is rounded for either measurement, so what is 90 minutes after
rounding may still be one hour after rounding. Months and years are kept from that by a lower bound
on the number, hours and days are not.

* `spanText_eq`: where each name begins and ends, in seconds;
* `spanText_eq_countedText_iff`: which spans are counted, in which unit and how far;
* `counts_one_iff`: where a plural has the number one, and that no smaller number occurs.
-/

namespace CaseForm

/-! ### Texts with a number -/

/-- A number of units in words. -/
def countedText (n : Nat) (unit : String) : String := toString n ++ " " ++ unit

theorem toList_countedText (n : Nat) (unit : String) :
    (countedText n unit).toList = Nat.toDigits 10 n ++ ' ' :: unit.toList := by
  simp [countedText]

/-- A text with a number begins with a digit. -/
theorem exists_digit_countedText (n : Nat) (unit : String) :
    ∃ c rest, (countedText n unit).toList = c :: rest ∧ c.isDigit = true := by
  rw [toList_countedText]
  cases digits : Nat.toDigits 10 n with
  | nil => exact absurd digits Nat.toDigits_ne_nil
  | cons c rest =>
    have mem : c ∈ Nat.toDigits 10 n := by
      rw [digits]
      exact List.mem_cons_self
    exact ⟨c, _, rfl, Nat.isDigit_of_mem_toDigits (by decide) (by decide) mem⟩

/-- A text that does not begin with a digit has no number. -/
theorem ne_countedText {text : String} {c : Char} {rest : List Char}
    (first : text.toList = c :: rest) (other : c.isDigit = false) (n : Nat) (unit : String) :
    text ≠ countedText n unit := by
  rintro rfl
  obtain ⟨d, others, split, digit⟩ := exists_digit_countedText n unit
  rw [split] at first
  cases first
  rw [digit] at other
  cases other

/-- A text with a number has one number and one unit. -/
theorem countedText_inj {n m : Nat} {unit other : String} (plain : ' ' ∉ unit.toList)
    (eq : countedText n unit = countedText m other) : n = m ∧ unit = other := by
  have lists := congrArg String.toList eq
  rw [toList_countedText, toList_countedText] at lists
  have digits : ' ' ∉ Nat.toDigits 10 n := by
    intro mem
    exact absurd (Nat.isDigit_of_mem_toDigits (by decide) (by decide) mem) (by decide)
  obtain ⟨same, -, rest⟩ := (List.append_cons_inj_of_notMem digits plain).1 lists
  refine ⟨?_, String.toList_inj.1 rest⟩
  calc
    n = Nat.ofDigitChars 10 (Nat.toDigits 10 n) 0 := Nat.ofDigitChars_ten_toDigits.symm
    _ = Nat.ofDigitChars 10 (Nat.toDigits 10 m) 0 := by rw [same]
    _ = m := Nat.ofDigitChars_ten_toDigits

/-! ### Counted spans -/

/-- A span that is counted, with its number and its unit. The bounds are in seconds. -/
inductive Counted (seconds : Nat) : Nat → String → Prop where
  | minutes (least : 90 ≤ seconds) (below : seconds < 2670) :
    Counted seconds (roundedUnits seconds 60) "minutes"
  | hours (least : 5370 ≤ seconds) (below : seconds < 77400) :
    Counted seconds (roundedUnits seconds 3600) "hours"
  | days (least : 127800 ≤ seconds) (below : seconds < 2203200) :
    Counted seconds (roundedUnits seconds 86400) "days"
  | months (least : 3844800 ≤ seconds) (below : seconds < 27604800) :
    Counted seconds (max (roundedUnits seconds secondsPerMonth) 2) "months"
  | years (least : 47304000 ≤ seconds) :
    Counted seconds (max (roundedUnits seconds secondsPerYear) 2) "years"

variable {seconds n : Nat} {unit : String}

/-- A number of units is below a bound just if the span is, by half a unit. -/
theorem roundedUnits_lt_iff {size bound : Nat} (positive : 0 < size) :
    roundedUnits seconds size < bound ↔ 2 * seconds + size < bound * (2 * size) :=
  Nat.div_lt_iff_lt_mul (by omega)

/-- How a span is named, with every bound in seconds. -/
theorem spanText_eq (seconds : Nat) :
    spanText seconds =
      if seconds < 45 then "a few seconds"
      else if seconds < 90 then "a minute"
      else if seconds < 2670 then countedText (roundedUnits seconds 60) "minutes"
      else if seconds < 5370 then "an hour"
      else if seconds < 77400 then countedText (roundedUnits seconds 3600) "hours"
      else if seconds < 127800 then "a day"
      else if seconds < 2203200 then countedText (roundedUnits seconds 86400) "days"
      else if seconds < 3844800 then "a month"
      else if seconds < 27604800 then
        countedText (max (roundedUnits seconds secondsPerMonth) 2) "months"
      else if seconds < 47304000 then "a year"
      else countedText (max (roundedUnits seconds secondsPerYear) 2) "years" := by
  have minutes (bound : Nat) : roundedUnits seconds 60 < bound ↔ seconds < 60 * bound - 30 :=
    (roundedUnits_lt_iff (by decide)).trans (by omega)
  have hours (bound : Nat) : roundedUnits seconds 3600 < bound ↔ seconds < 3600 * bound - 1800 :=
    (roundedUnits_lt_iff (by decide)).trans (by omega)
  have days (bound : Nat) : roundedUnits seconds 86400 < bound ↔ seconds < 86400 * bound - 43200 :=
    (roundedUnits_lt_iff (by decide)).trans (by omega)
  unfold spanText
  simp only [minutes, hours, days]
  rfl

/-- A span is named by an article and one unit, or it is counted. -/
theorem spanText_cases (seconds : Nat) :
    (∃ rest, spanText seconds = "a" ++ rest) ∨
      ∃ n unit, Counted seconds n unit ∧ ' ' ∉ unit.toList ∧
        spanText seconds = countedText n unit := by
  generalize named : spanText seconds = text
  rw [spanText_eq] at named
  repeat' split at named
  · exact .inl ⟨" few seconds", named.symm⟩
  · exact .inl ⟨" minute", named.symm⟩
  · exact .inr ⟨_, _, .minutes (by omega) (by omega), by decide, named.symm⟩
  · exact .inl ⟨"n hour", named.symm⟩
  · exact .inr ⟨_, _, .hours (by omega) (by omega), by decide, named.symm⟩
  · exact .inl ⟨" day", named.symm⟩
  · exact .inr ⟨_, _, .days (by omega) (by omega), by decide, named.symm⟩
  · exact .inl ⟨" month", named.symm⟩
  · exact .inr ⟨_, _, .months (by omega) (by omega), by decide, named.symm⟩
  · exact .inl ⟨" year", named.symm⟩
  · exact .inr ⟨_, _, .years (by omega), by decide, named.symm⟩

theorem counted_of_spanText (text : spanText seconds = countedText n unit) :
    Counted seconds n unit := by
  rcases spanText_cases seconds with ⟨rest, named⟩ | ⟨m, other, counted, plain, named⟩
  · rw [named] at text
    exact absurd text (ne_countedText String.toList_append rfl n unit)
  · rw [named] at text
    obtain ⟨rfl, rfl⟩ := countedText_inj plain text
    exact counted

theorem spanText_of_counted (counted : Counted seconds n unit) :
    spanText seconds = countedText n unit := by
  rw [spanText_eq]
  -- The bounds before the one that applies are passed one by one.
  cases counted with
  | years => repeat rw [if_neg (by omega)]
  | _ =>
    repeat rw [if_neg (by omega)]
    rw [if_pos (by omega)]

/-- A span reads as a number of units just if it is counted in them. -/
theorem spanText_eq_countedText_iff :
    spanText seconds = countedText n unit ↔ Counted seconds n unit :=
  ⟨counted_of_spanText, spanText_of_counted⟩

/-! ### One unit -/

/-- The spans that are long enough to be counted, and round to a single unit. -/
def RoundsToOne (seconds : Nat) (unit : String) : Prop :=
  unit = "hours" ∧ 5370 ≤ seconds ∧ seconds < 5400 ∨
    unit = "days" ∧ 127800 ≤ seconds ∧ seconds < 129600

/-- No span is counted by zero, and a number of one stands only where hours and days begin. -/
theorem Counted.lt_two_iff (counted : Counted seconds n unit) :
    n < 2 ↔ n = 1 ∧ RoundsToOne seconds unit := by
  unfold RoundsToOne
  cases counted with
  | minutes least below =>
    unfold roundedUnits
    constructor
    · omega
    · simp
  | hours least below =>
    unfold roundedUnits
    constructor
    · intro few
      exact ⟨by omega, .inl ⟨rfl, by omega, by omega⟩⟩
    · omega
  | days least below =>
    unfold roundedUnits
    constructor
    · intro few
      exact ⟨by omega, .inr ⟨rfl, by omega, by omega⟩⟩
    · omega
  | months least below => omega
  | years least => omega

theorem counted_of_roundsToOne (short : RoundsToOne seconds unit) : Counted seconds 1 unit := by
  rcases short with ⟨rfl, least, below⟩ | ⟨rfl, least, below⟩
  · have one : roundedUnits seconds 3600 = 1 := by
      unfold roundedUnits
      omega
    rw [← one]
    exact .hours least (by omega)
  · have one : roundedUnits seconds 86400 = 1 := by
      unfold roundedUnits
      omega
    rw [← one]
    exact .days least (by omega)

theorem counted_and_lt_two_iff :
    Counted seconds n unit ∧ n < 2 ↔ n = 1 ∧ RoundsToOne seconds unit := by
  constructor
  · rintro ⟨counted, few⟩
    exact counted.lt_two_iff.1 few
  · rintro ⟨rfl, short⟩
    exact ⟨counted_of_roundsToOne short, by decide⟩

theorem exists_counted_and_lt_two_iff (found side : Int → Prop) :
    (∃ elapsed, found elapsed ∧ side elapsed ∧ Counted elapsed.natAbs n unit) ∧ n < 2 ↔
      n = 1 ∧ ∃ elapsed, found elapsed ∧ side elapsed ∧ RoundsToOne elapsed.natAbs unit := by
  constructor
  · rintro ⟨⟨elapsed, here, within, counted⟩, few⟩
    obtain ⟨one, short⟩ := counted.lt_two_iff.1 few
    exact ⟨one, elapsed, here, within, short⟩
  · rintro ⟨one, elapsed, here, within, short⟩
    obtain ⟨counted, few⟩ := counted_and_lt_two_iff.2 ⟨one, short⟩
    exact ⟨⟨elapsed, here, within, counted⟩, few⟩

/-! ### Timestamps in words -/

/-- The seconds since a server's timestamp, as seen from a moment; negative for one to come. -/
def elapsedSeconds? (raw : String) (now : Moment) : Option Int :=
  (Moment.parse? serverTimePattern (Text.replace "GMT" "+0000" raw)).map now.secondsSince

variable {raw : String} {now : Moment}

/-- A timestamp reads as a span of time, ago or ahead. -/
theorem elapsedText?_eq (raw : String) (now : Moment) :
    elapsedText? raw now = (elapsedSeconds? raw now).map fun seconds =>
      if 0 ≤ seconds then spanText seconds.natAbs ++ " ago"
      else "in " ++ spanText seconds.natAbs := by
  unfold elapsedText? elapsedSeconds?
  cases Moment.parse? serverTimePattern (Text.replace "GMT" "+0000" raw) <;> rfl

theorem countedText_append_ne (n : Nat) (unit ending other : String) :
    countedText n unit ++ ending ≠ "in " ++ other := by
  intro eq
  obtain ⟨c, rest, split, digit⟩ := exists_digit_countedText n unit
  have first := congrArg (fun text => text.toList.head?) eq
  simp only [String.toList_append, split] at first
  cases first
  cases digit

theorem spanText_append_ne (seconds : Nat) (ending other : String) :
    spanText seconds ++ ending ≠ "in " ++ other := by
  rcases spanText_cases seconds with ⟨rest, named⟩ | ⟨n, unit, -, -, named⟩
  · intro eq
    have first := congrArg (fun text => text.toList.head?) eq
    simp only [named, String.toList_append] at first
    have clash : some 'a' = some 'i' := first
    exact absurd clash (by decide)
  · rw [named]
    exact countedText_append_ne n unit ending other

/-- A timestamp reads as a number of units ago just if it is past, and the span since then is
counted in them. -/
theorem elapsedText?_eq_ago_iff :
    elapsedText? raw now = some (countedText n unit ++ " ago") ↔
      ∃ seconds, elapsedSeconds? raw now = some seconds ∧ 0 ≤ seconds ∧
        Counted seconds.natAbs n unit := by
  rw [elapsedText?_eq, Option.map_eq_some_iff]
  refine exists_congr fun seconds => and_congr_right fun _ => ?_
  split_ifs with past
  · rw [String.append_left_inj, spanText_eq_countedText_iff]
    simp [past]
  · exact iff_of_false (countedText_append_ne _ _ _ _).symm (fun both => past both.1)

/-- A timestamp reads as a number of units ahead just if it is to come, and the span until then is
counted in them. -/
theorem elapsedText?_eq_ahead_iff :
    elapsedText? raw now = some ("in " ++ countedText n unit) ↔
      ∃ seconds, elapsedSeconds? raw now = some seconds ∧ seconds < 0 ∧
        Counted seconds.natAbs n unit := by
  rw [elapsedText?_eq, Option.map_eq_some_iff]
  refine exists_congr fun seconds => and_congr_right fun _ => ?_
  split_ifs with past
  · exact iff_of_false (spanText_append_ne _ _ _) (fun both => by omega)
  · rw [String.append_right_inj, spanText_eq_countedText_iff]
    simp [Int.not_le.1 past]

/-- Where a plural has the number one. A span of time is never counted by zero. It is counted by one
just in the half minute before an hour and a half, as one of the hours, and in the half hour before
a day and a half, as one of the days; minutes, months and years are at least two. A timestamp reads
likewise, ago and ahead. -/
theorem counts_one_iff (seconds n : Nat) (unit raw : String) (now : Moment) :
    (spanText seconds = countedText n unit ∧ n < 2 ↔ n = 1 ∧ RoundsToOne seconds unit) ∧
    (elapsedText? raw now = some (countedText n unit ++ " ago") ∧ n < 2 ↔
      n = 1 ∧ ∃ elapsed, elapsedSeconds? raw now = some elapsed ∧ 0 ≤ elapsed ∧
        RoundsToOne elapsed.natAbs unit) ∧
    (elapsedText? raw now = some ("in " ++ countedText n unit) ∧ n < 2 ↔
      n = 1 ∧ ∃ elapsed, elapsedSeconds? raw now = some elapsed ∧ elapsed < 0 ∧
        RoundsToOne elapsed.natAbs unit) := by
  rw [spanText_eq_countedText_iff, elapsedText?_eq_ago_iff, elapsedText?_eq_ahead_iff]
  refine ⟨counted_and_lt_two_iff, ?_, ?_⟩
  · exact exists_counted_and_lt_two_iff (elapsedSeconds? raw now = some ·) (0 ≤ ·)
  · exact exists_counted_and_lt_two_iff (elapsedSeconds? raw now = some ·) (· < 0)

/-- One of the hours, and one of the days: half a minute before an hour and a half, half an hour
before a day and a half, and timestamps that lie as far from a moment. -/
theorem one_hours_and_one_days :
    let noon : Moment := ⟨737136, 43200, 0⟩
    spanText 5370 = "1 hours" ∧ spanText 127800 = "1 days" ∧
      elapsedText? "20190318T103030.000 GMT" noon = some "1 hours ago" ∧
      elapsedText? "20190319T233000.000 GMT" noon = some "in 1 days" := by
  decide +kernel

end CaseForm
