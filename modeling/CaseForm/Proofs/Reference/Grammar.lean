import CaseForm.Proofs.Reference.Legible

/-!
The grammar of segments.

A segment is a plain name, or a name and a plain key between parentheses. Every other text is
malformed (`Segment.malformed_iff`). Word means that there is something and that it has no
parentheses, but of the name in front of a key only half of that is asked: it has no opening
parenthesis, and may well have closing ones (`Segment.Overlooked`). Such a text is read as a
segment although its parentheses are not balanced.
-/

namespace CaseForm

namespace Segment

/-- A plain name or key: it is not empty and has no parentheses. -/
structure Word (text : String) : Prop where
  filled : text ≠ ""
  unopened : '(' ∉ text.toList
  unclosed : ')' ∉ text.toList

instance (text : String) : Decidable (Word text) :=
  decidable_of_iff (text ≠ "" ∧ '(' ∉ text.toList ∧ ')' ∉ text.toList)
    ⟨fun ⟨a, b, c⟩ => ⟨a, b, c⟩, fun ⟨a, b, c⟩ => ⟨a, b, c⟩⟩

/-- A name with a key between parentheses. -/
def bracketed (name key : String) : String := name ++ "(" ++ key ++ ")"

/-- The grammar of segments: a plain name, alone or with a plain key between parentheses. -/
def Grammatical (text : String) : Prop :=
  Word text ∨ ∃ name key, text = bracketed name key ∧ Word name ∧ Word key

/-- A name with a plain key where the name has closing parentheses. -/
def Overlooked (text : String) : Prop :=
  ∃ name key, text = bracketed name key ∧ '(' ∉ name.toList ∧ ')' ∈ name.toList ∧ Word key

/-- The segment has a name, and its subscript is a key: as it is, or as a position. -/
def IsAt (name key : String) : Segment → Prop
  | .page _ => False
  | .listItem list index => list = name ∧ wholeNumber? key.toList = some (index + 1 : Int)
  | .groupEntry group entry => group = name ∧ entry = key ∧ wholeNumber? key.toList = none

variable {reference text name key : String} {segment : Segment}

/-! ### Texts with a subscript -/

theorem toList_bracketed (name key : String) :
    (bracketed name key).toList = name.toList ++ '(' :: (key.toList ++ [')']) :=
  toList_text_groupEntry name key

theorem count_bracketed (name key : String) (c : Char) :
    (bracketed name key).toList.count c =
      name.toList.count c + key.toList.count c + [')', '('].count c := by
  rw [toList_bracketed]
  simp only [List.count_append, List.count_cons, List.count_nil]
  omega

/-- What a text with a plain key is read as, if there is a name without an opening parenthesis. -/
theorem parse_bracketed (named : name ≠ "") (unopened : '(' ∉ name.toList) (plain : Word key) :
    parse reference (bracketed name key) =
      ofSubscript reference (bracketed name key) name.toList key.toList :=
  parse_of_subscript (toList_bracketed name key) (by simpa using named) unopened
    (by simpa using plain.filled) ⟨plain.unopened, plain.unclosed⟩

theorem parse_word (plain : Word text) : parse reference text = .ok (.page text) :=
  parse_eq_ok_iff.2 (.inl ⟨rfl, plain.filled, plain.unopened, plain.unclosed⟩)

theorem ofSubscript_ne_malformed (reference text : String) (name key : List Char)
    (reason : Malformation) :
    ofSubscript reference text name key ≠ .error (.malformed reference text reason) := by
  unfold ofSubscript
  split
  · split_ifs <;> simp
  · simp

/-- A subscript is read as a position if it is a whole number, and as a key if it is none. -/
theorem isAt_of_ofSubscript
    (read : ofSubscript reference text name.toList key.toList = .ok segment) :
    segment.IsAt name key := by
  unfold ofSubscript at read
  split at read
  · next position whole =>
    split_ifs at read with positive
    cases read
    refine ⟨String.ofList_toList, ?_⟩
    rw [whole, Option.some.injEq]
    omega
  · next none =>
    cases read
    exact ⟨String.ofList_toList, String.ofList_toList, none⟩

/-! ### Malformed texts -/

/-- A text that is not malformed is a plain name, or a name with a plain key. -/
theorem malformed_or_form (reference text : String) :
    (∃ reason, parse reference text = .error (.malformed reference text reason)) ∨ Word text ∨
      ∃ name key, text = bracketed name key ∧ name ≠ "" ∧ '(' ∉ name.toList ∧ Word key := by
  by_cases subscript : '(' ∈ text.toList
  · obtain ⟨name, inner, split, unopened⟩ := List.eq_append_cons_of_mem subscript
    simp only [parse, split, splitSubscript_append unopened]
    split_ifs with empty unclosed unnamed unfilled unbalanced
    · exact .inl ⟨_, rfl⟩
    · exact .inl ⟨_, rfl⟩
    · exact .inl ⟨_, rfl⟩
    · exact .inl ⟨_, rfl⟩
    · exact .inl ⟨_, rfl⟩
    · -- Nothing is wrong with the form; the last character closes the subscript.
      obtain ⟨key, rfl⟩ := List.getLast?_eq_some_iff.1 (not_not.1 unclosed)
      rw [List.dropLast_concat] at unfilled unbalanced
      obtain ⟨unopened', unclosed'⟩ := not_or.1 unbalanced
      refine .inr (.inr ⟨String.ofList name, String.ofList key, ?_, by simpa using unnamed,
        by simpa using unopened, by simpa using unfilled,
        by simpa using unopened', by simpa using unclosed'⟩)
      apply String.toList_inj.1
      rw [toList_bracketed, split, String.toList_ofList, String.toList_ofList]
  · simp only [parse, splitSubscript_of_not_mem subscript]
    split_ifs with empty unopened
    · exact .inl ⟨_, rfl⟩
    · exact .inl ⟨_, rfl⟩
    · exact .inr (.inl ⟨by simpa using empty, subscript, unopened⟩)

/-- A name with a plain key is a segment of the grammar, or its closing parentheses are
overlooked. -/
theorem grammatical_or_overlooked (named : name ≠ "") (unopened : '(' ∉ name.toList)
    (plain : Word key) :
    Grammatical (bracketed name key) ∨ Overlooked (bracketed name key) := by
  by_cases closed : ')' ∈ name.toList
  · exact .inr ⟨name, key, rfl, unopened, closed, plain⟩
  · exact .inl (.inr ⟨name, key, rfl, ⟨named, unopened, closed⟩, plain⟩)

theorem not_malformed_of_grammatical (grammatical : Grammatical text) (reason : Malformation) :
    parse reference text ≠ .error (.malformed reference text reason) := by
  rcases grammatical with plain | ⟨name, key, rfl, named, plain⟩
  · simp [parse_word plain]
  · rw [parse_bracketed named.filled named.unopened plain]
    exact ofSubscript_ne_malformed _ _ _ _ reason

theorem not_malformed_of_overlooked (overlooked : Overlooked text) (reason : Malformation) :
    parse reference text ≠ .error (.malformed reference text reason) := by
  obtain ⟨name, key, rfl, unopened, closed, plain⟩ := overlooked
  have named : name ≠ "" := by
    rintro rfl
    cases closed
  rw [parse_bracketed named unopened plain]
  exact ofSubscript_ne_malformed _ _ _ _ reason

/-! ### Counting parentheses -/

/-- The parentheses of the grammar are balanced. -/
theorem count_of_grammatical (grammatical : Grammatical text) :
    text.toList.count '(' ≤ 1 ∧ text.toList.count ')' = text.toList.count '(' := by
  rcases grammatical with plain | ⟨name, key, rfl, named, plain⟩
  · rw [List.count_eq_zero_of_not_mem plain.unopened, List.count_eq_zero_of_not_mem plain.unclosed]
    exact ⟨Nat.zero_le _, rfl⟩
  · simp [count_bracketed, List.count_eq_zero_of_not_mem named.unopened,
      List.count_eq_zero_of_not_mem named.unclosed, List.count_eq_zero_of_not_mem plain.unopened,
      List.count_eq_zero_of_not_mem plain.unclosed]

/-- A text with overlooked parentheses has more closing ones than the one that opens. -/
theorem count_of_overlooked (overlooked : Overlooked text) :
    text.toList.count '(' = 1 ∧ 1 < text.toList.count ')' := by
  obtain ⟨name, key, rfl, unopened, closed, plain⟩ := overlooked
  have present : 0 < name.toList.count ')' := List.count_pos_iff.2 closed
  simp only [count_bracketed, List.count_eq_zero_of_not_mem unopened,
    List.count_eq_zero_of_not_mem plain.unopened, List.count_eq_zero_of_not_mem plain.unclosed]
  exact ⟨rfl, by simpa using present⟩

theorem not_grammatical_of_overlooked (overlooked : Overlooked text) : ¬ Grammatical text := by
  intro grammatical
  have balanced := count_of_grammatical grammatical
  have more := count_of_overlooked overlooked
  omega

/-! ### Accepted texts -/

theorem form_of_parse (read : parse reference text = .ok segment) :
    Grammatical text ∨ Overlooked text := by
  rcases malformed_or_form reference text with
    ⟨reason, malformed⟩ | plain | ⟨name, key, rfl, named, unopened, plain⟩
  · rw [malformed] at read
    cases read
  · exact .inl (.inl plain)
  · exact grammatical_or_overlooked named unopened plain

/-- What is accepted has at most one opening parenthesis, and as many closing ones unless some are
overlooked. -/
theorem count_of_parse (read : parse reference text = .ok segment) :
    text.toList.count '(' ≤ 1 ∧
      (text.toList.count ')' = text.toList.count '(' ↔ ¬ Overlooked text) := by
  rcases form_of_parse read with grammatical | overlooked
  · obtain ⟨single, balanced⟩ := count_of_grammatical grammatical
    exact ⟨single, iff_of_true balanced fun overlooked =>
      not_grammatical_of_overlooked overlooked grammatical⟩
  · obtain ⟨single, more⟩ := count_of_overlooked overlooked
    exact ⟨by omega, iff_of_false (by omega) (not_not.2 overlooked)⟩

/-- The one opening parenthesis of an accepted text with a subscript stands between the name and the
key. -/
theorem unopened_of_parse (read : parse reference (bracketed name key) = .ok segment) :
    '(' ∉ name.toList := by
  obtain ⟨single, -⟩ := count_of_parse read
  have own : [')', '('].count '(' = 1 := rfl
  rw [count_bracketed] at single
  exact List.count_eq_zero.1 (by omega)

/-- An accepted text with a subscript has the name in front of its parentheses and the key between
them. -/
theorem isAt_of_parse (read : parse reference (bracketed name key) = .ok segment) :
    segment.IsAt name key := by
  have unopened := unopened_of_parse read
  rcases parse_eq_ok_iff.1 read with ⟨-, -, absurd, -⟩ |
    ⟨other, also, split, -, clear, -, -, read⟩
  · simp [toList_bracketed] at absurd
  · rw [toList_bracketed] at split
    have same := congrArg splitSubscript split
    rw [splitSubscript_append unopened, splitSubscript_append clear] at same
    obtain ⟨rfl, rest⟩ := Prod.mk.inj same
    cases List.append_cancel_right (Option.some.inj rest)
    exact isAt_of_ofSubscript read

end Segment

/-- A text is malformed just if it is no segment of the grammar, unless closing parentheses of its
name are overlooked; such a text is no segment of the grammar, and is not malformed. So what is
accepted has at most one opening parenthesis, and its parentheses are balanced unless some are
overlooked. A plain name is read as itself. Of a name with a key between parentheses these two are
read, the key as it is or as the position that it denotes. -/
theorem malformed_iff_not_grammatical (reference text : String) :
    (¬ Segment.Overlooked text →
      ((∃ reason, Segment.parse reference text = .error (.malformed reference text reason)) ↔
        ¬ Segment.Grammatical text)) ∧
    (Segment.Overlooked text → ¬ Segment.Grammatical text ∧
      ∀ reason, Segment.parse reference text ≠ .error (.malformed reference text reason)) ∧
    ∀ segment, Segment.parse reference text = .ok segment →
      (text.toList.count '(' ≤ 1 ∧
        (text.toList.count ')' = text.toList.count '(' ↔ ¬ Segment.Overlooked text)) ∧
      (Segment.Word text → segment = .page text) ∧
      ∀ name key, text = Segment.bracketed name key → segment.IsAt name key := by
  refine ⟨fun clear => ⟨?_, ?_⟩, fun overlooked => ⟨?_, ?_⟩, fun segment read => ⟨?_, ?_, ?_⟩⟩
  · rintro ⟨reason, malformed⟩ grammatical
    exact Segment.not_malformed_of_grammatical grammatical reason malformed
  · intro other
    rcases Segment.malformed_or_form reference text with
      malformed | plain | ⟨name, key, rfl, named, unopened, plain⟩
    · exact malformed
    · exact absurd (.inl plain) other
    · exact absurd (Segment.grammatical_or_overlooked named unopened plain)
        (not_or.2 ⟨other, clear⟩)
  · exact Segment.not_grammatical_of_overlooked overlooked
  · exact Segment.not_malformed_of_overlooked overlooked
  · exact Segment.count_of_parse read
  · intro plain
    rw [Segment.parse_word plain] at read
    cases read
    rfl
  · rintro name key rfl
    exact Segment.isAt_of_parse read

/-- Something after the subscript is malformed, and of a name with a key both are read. -/
theorem malformed_after_subscript :
    ¬ Segment.Grammatical "A(1)b" ∧ ∀ segment,
      Segment.parse "r" "Accounts(Primary)" = .ok segment → segment.IsAt "Accounts" "Primary" := by
  obtain ⟨strict, -, -⟩ := malformed_iff_not_grammatical "r" "A(1)b"
  obtain ⟨-, -, accepted⟩ := malformed_iff_not_grammatical "r" "Accounts(Primary)"
  refine ⟨(strict fun overlooked => ?_).1 ⟨.unclosed, rfl⟩, fun segment read => ?_⟩
  · exact absurd (Segment.count_of_overlooked overlooked).2 (by decide)
  · exact (accepted segment read).2.2 "Accounts" "Primary" rfl

/-- A closing parenthesis in the name of a list is overlooked. -/
theorem closing_parenthesis_in_name :
    Segment.parse "r" "A)B(1)" = .ok (.listItem "A)B" 0) ∧ ¬ Segment.Grammatical "A)B(1)" :=
  ⟨rfl, Segment.not_grammatical_of_overlooked ⟨"A)B", "1", rfl, by decide, by decide, by decide⟩⟩

end CaseForm
