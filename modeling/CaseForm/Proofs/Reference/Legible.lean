import CaseForm.Reference.Addressing
import Mathlib.Data.List.Induction

/-!
Written references and how they are read back.

A segment is legible if its name and its subscript can stand in a reference: only the parentheses
of the subscript are there to be found, and a key does not look like a position. What has been read
is legible, and what is legible is read back from its written form:

* `Segment.parse_text`, `Segment.legible_of_parse`: segments;
* `Addressing.parse_text`, `Addressing.legible_of_parse`: references;
* `Path.eq_of_text_eq`: so legible paths that are written alike are equal.

The other way round, a position may be written with a sign or with leading zeros, and a marker of
the root page is passed over. A reference with neither is the written form of what it is read as
(`Addressing.text_of_canonical`).
-/

namespace CaseForm

/-! ### Decimal numbers -/

theorem digitChar_of_isDigit {c : Char} (digit : c.isDigit = true) :
    ∃ d < 10, c = Nat.digitChar d ∧ c.toNat - '0'.toNat = d := by
  have bounds := Char.isDigit_iff_toNat.1 digit
  have zero : '0'.toNat = 48 := rfl
  have nine : '9'.toNat = 57 := rfl
  refine ⟨c.toNat - '0'.toNat, by omega, ?_, rfl⟩
  apply Char.toNat_inj.1
  rw [Nat.toNat_digitChar_of_lt_ten (by omega)]
  omega

/-- Digits that do not begin with a zero are the digits of the number that they stand for. -/
theorem toDigits_ofDigitChars {digits : List Char} (filled : digits ≠ [])
    (numeric : ∀ c ∈ digits, c.isDigit = true) (canonical : digits.head? ≠ some '0') :
    Nat.toDigits 10 (Nat.ofDigitChars 10 digits 0) = digits := by
  induction digits using List.reverseRecOn with
  | nil => exact absurd rfl filled
  | append_singleton before last ih =>
    obtain ⟨d, small, rfl, value⟩ := digitChar_of_isDigit (numeric last (by simp))
    rw [Nat.ofDigitChars_append, Nat.ofDigitChars_cons, Nat.ofDigitChars_nil, value]
    by_cases single : before = []
    · subst single
      rw [Nat.ofDigitChars_nil, Nat.mul_zero, Nat.zero_add, Nat.toDigits_of_lt_base small]
      rfl
    · -- The digits before the last are those of a number that is not zero.
      have head : (before ++ [d.digitChar]).head? = before.head? := by
        cases before with
        | nil => exact absurd rfl single
        | cons c rest => rfl
      rw [head] at canonical
      have earlier := ih single (fun c mem => numeric c (by simp [mem])) canonical
      have positive : Nat.ofDigitChars 10 before 0 ≠ 0 := by
        intro zero
        rw [zero, Nat.toDigits_zero] at earlier
        rw [← earlier] at canonical
        exact canonical rfl
      rw [Nat.toDigits_of_base_le (by decide) (by omega)]
      have quotient : (10 * Nat.ofDigitChars 10 before 0 + d) / 10 =
          Nat.ofDigitChars 10 before 0 := by omega
      have remainder : (10 * Nat.ofDigitChars 10 before 0 + d) % 10 = d := by omega
      rw [quotient, remainder, earlier]

theorem not_mem_toDigits {c : Char} (other : c.isDigit = false) (n : Nat) :
    c ∉ Nat.toDigits 10 n := by
  intro mem
  rw [Nat.isDigit_of_mem_toDigits (by decide) (by decide) mem] at other
  cases other

/-- A number is read back from its digits. -/
theorem boundedNumber?_toDigits {bound n : Nat} (within : n ≤ bound) :
    boundedNumber? bound (Nat.toDigits 10 n) = some n := by
  have value : Nat.ofDigitChars 10 (Nat.toDigits 10 n) 0 = n := Nat.ofDigitChars_ten_toDigits
  have numeric : (Nat.toDigits 10 n).all Char.isDigit = true := by
    rw [List.all_eq_true]
    intro c mem
    exact Nat.isDigit_of_mem_toDigits (by decide) (by decide) mem
  unfold boundedNumber?
  simp [value, numeric, within]

theorem boundedNumber?_eq_some_iff {bound n : Nat} {digits : List Char} :
    boundedNumber? bound digits = some n ↔
      digits ≠ [] ∧ (∀ c ∈ digits, c.isDigit = true) ∧ n ≤ bound ∧
        Nat.ofDigitChars 10 digits 0 = n := by
  simp only [boundedNumber?, Option.ite_none_right_eq_some, List.all_eq_true, Option.some.injEq]
  constructor
  · rintro ⟨⟨filled, numeric, within⟩, rfl⟩
    exact ⟨filled, numeric, within, rfl⟩
  · rintro ⟨filled, numeric, within, rfl⟩
    exact ⟨⟨filled, numeric, within⟩, rfl⟩

/-- A subscript without a sign is read as digits. -/
theorem wholeNumber?_of_unsigned {key : List Char} (plus : key.head? ≠ some '+')
    (minus : key.head? ≠ some '-') :
    wholeNumber? key = (boundedNumber? 0x7fffffffffffffff key).map fun n : Nat => (n : Int) := by
  unfold wholeNumber?
  split
  · simp at minus
  · simp at plus
  · cases boundedNumber? 0x7fffffffffffffff key <;> rfl

/-- A position is read back from its digits. -/
theorem wholeNumber?_toDigits {n : Nat} (within : n ≤ 0x7fffffffffffffff) :
    wholeNumber? (Nat.toDigits 10 n) = some (n : Int) := by
  have unsigned (sign : Char) (other : sign.isDigit = false) :
      (Nat.toDigits 10 n).head? ≠ some sign :=
    fun first => not_mem_toDigits other n (List.mem_of_head? first)
  rw [wholeNumber?_of_unsigned (unsigned '+' rfl) (unsigned '-' rfl),
    boundedNumber?_toDigits within]
  rfl

/-- Subscripts that are whole numbers have 64 bits. -/
theorem le_of_wholeNumber? {key : List Char} {n : Int} (h : wholeNumber? key = some n) :
    n ≤ 0x7fffffffffffffff := by
  unfold wholeNumber? at h
  split at h <;>
    · simp only [Option.map_eq_some_iff, Option.bind_eq_bind, Option.bind_eq_some_iff,
        boundedNumber?_eq_some_iff, Option.pure_def, Option.some.injEq] at h
      obtain ⟨_, ⟨m, ⟨-, -, within, -⟩, rfl⟩, rfl⟩ := h
      omega

/-! ### Segments -/

namespace Segment

/-- The segment can be written in a reference and is then found again. -/
def Legible : Segment → Prop
  | .page name => name ≠ "" ∧ '(' ∉ name.toList ∧ ')' ∉ name.toList
  | .listItem name index => name ≠ "" ∧ '(' ∉ name.toList ∧ index < 0x7fffffffffffffff
  | .groupEntry name key =>
    name ≠ "" ∧ '(' ∉ name.toList ∧ key ≠ "" ∧ '(' ∉ key.toList ∧ ')' ∉ key.toList ∧
      wholeNumber? key.toList = none

variable {reference text : String} {segment : Segment}

theorem splitSubscript_of_not_mem {cs : List Char} (closed : '(' ∉ cs) :
    splitSubscript cs = (cs, none) := by
  have all : ∀ c ∈ cs, (c != '(') = true := by
    intro c mem
    simpa using fun eq : c = '(' => closed (eq ▸ mem)
  have taken : (cs ++ []).takeWhile (· != '(') = cs ++ [] := List.takeWhile_append_of_pos all
  have dropped : (cs ++ []).dropWhile (· != '(') = [] := List.dropWhile_append_of_pos all
  rw [List.append_nil] at taken dropped
  unfold splitSubscript
  rw [taken, dropped]
  rfl

theorem splitSubscript_append {name : List Char} (closed : '(' ∉ name) (inner : List Char) :
    splitSubscript (name ++ '(' :: inner) = (name, some inner) := by
  have all : ∀ c ∈ name, (c != '(') = true := by
    intro c mem
    simpa using fun eq : c = '(' => closed (eq ▸ mem)
  unfold splitSubscript
  rw [List.takeWhile_append_of_pos all, List.dropWhile_append_of_pos all]
  simp

/-- A text with a subscript is read as its name and its key, if they are there and hold no
parentheses. -/
theorem parse_of_subscript {name key : List Char}
    (split : text.toList = name ++ '(' :: (key ++ [')']))
    (named : name ≠ []) (closed : '(' ∉ name) (filled : key ≠ [])
    (balanced : '(' ∉ key ∧ ')' ∉ key) :
    parse reference text = ofSubscript reference text name key := by
  simp [parse, split, splitSubscript_append closed, named, filled, balanced]

/-- What is read as a segment is a page, or a name with a subscript. -/
theorem parse_eq_ok_iff :
    parse reference text = .ok segment ↔
      (segment = .page text ∧ text ≠ "" ∧ '(' ∉ text.toList ∧ ')' ∉ text.toList) ∨
        ∃ name key, text.toList = name ++ '(' :: (key ++ [')']) ∧ name ≠ [] ∧ '(' ∉ name ∧
          key ≠ [] ∧ ('(' ∉ key ∧ ')' ∉ key) ∧
          ofSubscript reference text name key = .ok segment := by
  constructor
  · intro read
    by_cases subscript : '(' ∈ text.toList
    · right
      obtain ⟨name, inner, split, closed⟩ := List.eq_append_cons_of_mem subscript
      simp only [parse, split, splitSubscript_append closed] at read
      split_ifs at read with empty unclosed unnamed unfilled unbalanced
      obtain ⟨key, rfl⟩ := List.getLast?_eq_some_iff.1 (not_not.1 unclosed)
      rw [List.dropLast_concat] at unfilled unbalanced read
      exact ⟨name, key, split, unnamed, closed, unfilled, not_or.1 unbalanced, read⟩
    · left
      simp only [parse, splitSubscript_of_not_mem subscript] at read
      split_ifs at read with empty unopened
      cases read
      refine ⟨rfl, ?_, subscript, unopened⟩
      rintro rfl
      exact empty rfl
  · rintro (⟨rfl, filled, single, unopened⟩ |
      ⟨name, key, split, named, closed, filled, balanced, read⟩)
    · simp [parse, splitSubscript_of_not_mem single, filled, unopened]
    · rw [parse_of_subscript split named closed filled balanced, read]

/-- What is read is legible. -/
theorem legible_of_parse (read : parse reference text = .ok segment) : segment.Legible := by
  rcases parse_eq_ok_iff.1 read with ⟨rfl, filled, single, unopened⟩ |
    ⟨name, key, -, named, closed, filled, balanced, read⟩
  · exact ⟨filled, single, unopened⟩
  · unfold ofSubscript at read
    split at read
    · next position whole =>
      split_ifs at read with positive
      cases read
      have within := le_of_wholeNumber? whole
      refine ⟨by simpa using named, by simpa using closed, ?_⟩
      omega
    · next none =>
      cases read
      simpa [Legible] using ⟨named, closed, filled, balanced.1, balanced.2, none⟩

theorem toList_text_listItem (name : String) (index : Nat) :
    (listItem name index).text.toList =
      name.toList ++ '(' :: (Nat.toDigits 10 (index + 1) ++ [')']) := by
  simp [text]

theorem toList_text_groupEntry (name key : String) :
    (groupEntry name key).text.toList = name.toList ++ '(' :: (key.toList ++ [')']) := by
  simp [text]

/-- What is legible is read back from its written form. -/
theorem parse_text (legible : segment.Legible) : parse reference segment.text = .ok segment := by
  cases segment with
  | page name => exact parse_eq_ok_iff.2 (.inl ⟨rfl, legible⟩)
  | listItem name index =>
    obtain ⟨named, closed, within⟩ := legible
    rw [parse_of_subscript (toList_text_listItem name index) (by simpa using named) closed
      Nat.toDigits_ne_nil ⟨not_mem_toDigits rfl _, not_mem_toDigits rfl _⟩]
    have whole := wholeNumber?_toDigits (show index + 1 ≤ 0x7fffffffffffffff from within)
    have positive : (1 : Int) ≤ (index + 1 : Nat) := by omega
    simp only [ofSubscript, whole, if_pos positive, String.ofList_toList]
    congr 2
    omega
  | groupEntry name key =>
    obtain ⟨named, closed, filled, balanced, unopened, none⟩ := legible
    rw [parse_of_subscript (toList_text_groupEntry name key) (by simpa using named) closed
      (by simpa using filled) ⟨balanced, unopened⟩]
    simp [ofSubscript, none]

/-- A text whose subscript, where it is a position, begins neither with a sign nor with a zero is
the written form of what it is read as. -/
theorem text_of_parse (read : parse reference text = .ok segment)
    (canonical : ∀ subscript ∈ subscript? text,
      subscript.toList.head? ∉ [some '+', some '-', some '0']) :
    segment.text = text := by
  rcases parse_eq_ok_iff.1 read with ⟨rfl, -⟩ | ⟨name, key, split, -, closed, filled, -, read⟩
  · rfl
  have inner : subscript? text = some (String.ofList key) := by
    simp [subscript?, split, splitSubscript_append closed]
  have start := canonical _ inner
  simp only [String.toList_ofList, List.mem_cons, List.not_mem_nil, or_false, not_or] at start
  unfold ofSubscript at read
  apply String.toList_inj.1
  rw [split]
  split at read
  · next position whole =>
    split_ifs at read with positive
    cases read
    rw [wholeNumber?_of_unsigned start.1 start.2.1] at whole
    obtain ⟨n, value, rfl⟩ := Option.map_eq_some_iff.1 whole
    obtain ⟨-, numeric, -, rfl⟩ := boundedNumber?_eq_some_iff.1 value
    have back := toDigits_ofDigitChars filled numeric start.2.2
    generalize Nat.ofDigitChars 10 key 0 = n at back positive
    have shifted : ((n : Int) - 1).toNat + 1 = n := by omega
    rw [toList_text_listItem, shifted, back, String.toList_ofList]
  · cases read
    simp [toList_text_groupEntry]

/-- The written form of what is read has a dot only if the text has one. -/
theorem dot_not_mem_text (read : parse reference text = .ok segment) (dotless : '.' ∉ text.toList) :
    '.' ∉ segment.text.toList := by
  rcases parse_eq_ok_iff.1 read with ⟨rfl, -⟩ | ⟨name, key, split, -, -, -, -, read⟩
  · exact dotless
  rw [split, List.mem_append, List.mem_cons, List.mem_append, not_or, not_or, not_or] at dotless
  unfold ofSubscript at read
  split at read
  · next position whole =>
    split_ifs at read with positive
    cases read
    rw [toList_text_listItem]
    simp [dotless.1, not_mem_toDigits]
  · cases read
    rw [toList_text_groupEntry]
    simp [dotless.1, dotless.2.2.1]

/-- Legible segments that are written alike are equal. -/
theorem eq_of_map_text_eq {segments others : List Segment}
    (legible : ∀ segment ∈ segments, segment.Legible)
    (also : ∀ segment ∈ others, segment.Legible)
    (eq : segments.map Segment.text = others.map Segment.text) : segments = others := by
  induction segments generalizing others with
  | nil => simpa using eq.symm
  | cons segment segments ih =>
    cases others with
    | nil => simp at eq
    | cons other others =>
      obtain ⟨here, legible⟩ := List.forall_mem_cons.1 legible
      obtain ⟨there, also⟩ := List.forall_mem_cons.1 also
      obtain ⟨first, rest⟩ := List.cons.inj eq
      have same : parse "" segment.text = parse "" other.text := by rw [first]
      rw [parse_text here, parse_text there, Except.ok.injEq] at same
      rw [same, ih legible also rest]

end Segment

/-! ### References -/

/-- Every segment can be written and is found again between the dots. -/
def Path.Legible (path : Path) : Prop :=
  ∀ segment ∈ path.segments, segment.Legible ∧ '.' ∉ segment.text.toList

namespace Addressing

variable {addressing : Addressing} {reference : String} {path : Path}

/-- A reference that is written as a form writes it: no container is a marker of the root page, and
no position has a sign or leading zeros. -/
structure Canonical (addressing : Addressing) (reference : String) : Prop where
  unmarked : addressing.rootPage ∉ (referenceParts reference).dropLast
  decimal : ∀ part ∈ referenceParts reference, ∀ subscript ∈ Segment.subscript? part,
    subscript.toList.head? ∉ [some '+', some '-', some '0']

/-- A reference is read if its last segment and its containers are, and no position is too high. -/
theorem parse_eq_ok_iff :
    addressing.parse reference = .ok path ↔
      Segment.parse reference ((referenceParts reference).getLastD "") = .ok path.leaf ∧
        addressing.parseContainers reference (referenceParts reference).dropLast =
          .ok path.containers ∧
        ∀ segment ∈ path.segments, addressing.exceeds segment = false := by
  unfold parse
  cases last : Segment.parse reference ((referenceParts reference).getLastD "") with
  | error e => simp only [last, bind, Except.bind, reduceCtorEq, false_and]
  | ok leaf =>
    cases before : addressing.parseContainers reference (referenceParts reference).dropLast with
    | error e => simp only [last, before, bind, Except.bind, reduceCtorEq, false_and, and_false]
    | ok containers =>
      simp only [last, before, bind, Except.bind, Except.ok.injEq]
      cases found : (Path.segments ⟨containers, leaf⟩).find? addressing.exceeds with
      | none =>
        have within := List.find?_eq_none.1 found
        constructor
        · intro read
          cases read
          exact ⟨rfl, rfl, by simpa using within⟩
        · rintro ⟨rfl, rfl, -⟩
          rfl
      | some segment =>
        constructor
        · intro absurd
          cases absurd
        · rintro ⟨rfl, rfl, within⟩
          have exceeds := List.find?_some found
          rw [within segment (List.mem_of_find?_eq_some found)] at exceeds
          cases exceeds

/-- Containers are read one by one, without markers of the root page. -/
theorem parseContainers_cons_eq_ok_iff {part : String} {parts : List String}
    {segments : List Segment} (unmarked : part ≠ addressing.rootPage) :
    addressing.parseContainers reference (part :: parts) = .ok segments ↔
      ∃ segment rest, segments = segment :: rest ∧ Segment.parse reference part = .ok segment ∧
        addressing.parseContainers reference parts = .ok rest := by
  rw [parseContainers, if_neg unmarked]
  cases Segment.parse reference part with
  | error e => simp [bind, Except.bind]
  | ok segment =>
    cases addressing.parseContainers reference parts with
    | error e => simp [bind, Except.bind]
    | ok rest =>
      simp only [bind, Except.bind, pure, Except.pure, Except.ok.injEq]
      constructor
      · rintro rfl
        exact ⟨segment, rest, rfl, rfl, rfl⟩
      · rintro ⟨_, _, rfl, rfl, rfl⟩
        rfl

/-- Each container that is read stands in the reference. -/
theorem exists_part_of_parseContainers {parts : List String} {segments : List Segment}
    (read : addressing.parseContainers reference parts = .ok segments) :
    ∀ segment ∈ segments, ∃ part ∈ parts, Segment.parse reference part = .ok segment := by
  induction parts generalizing segments with
  | nil =>
    cases read
    simp
  | cons part parts ih =>
    by_cases marked : part = addressing.rootPage
    · rw [parseContainers, if_pos marked] at read
      intro segment mem
      obtain ⟨other, there, parsed⟩ := ih read segment mem
      exact ⟨other, List.mem_cons_of_mem _ there, parsed⟩
    · obtain ⟨first, rest, rfl, here, read⟩ := (parseContainers_cons_eq_ok_iff marked).1 read
      intro segment mem
      rcases List.mem_cons.1 mem with rfl | mem
      · exact ⟨part, List.mem_cons_self, here⟩
      · obtain ⟨other, there, parsed⟩ := ih read segment mem
        exact ⟨other, List.mem_cons_of_mem _ there, parsed⟩

/-- Containers that are written as they are read are their written forms. -/
theorem map_text_of_parseContainers {parts : List String} {segments : List Segment}
    (read : addressing.parseContainers reference parts = .ok segments)
    (unmarked : addressing.rootPage ∉ parts)
    (faithful : ∀ part ∈ parts, ∀ segment, Segment.parse reference part = .ok segment →
      segment.text = part) :
    segments.map Segment.text = parts := by
  induction parts generalizing segments with
  | nil =>
    cases read
    rfl
  | cons part parts ih =>
    rw [List.mem_cons, not_or] at unmarked
    obtain ⟨first, rest, rfl, here, read⟩ :=
      (parseContainers_cons_eq_ok_iff (Ne.symm unmarked.1)).1 read
    obtain ⟨same, faithful⟩ := List.forall_mem_cons.1 faithful
    rw [List.map_cons, same first here, ih read unmarked.2 faithful]

theorem parseContainers_map_text {containers : List Segment}
    (legible : ∀ segment ∈ containers, segment.Legible)
    (unmarked : ∀ segment ∈ containers, segment.text ≠ addressing.rootPage) :
    addressing.parseContainers reference (containers.map Segment.text) = .ok containers := by
  induction containers with
  | nil => rfl
  | cons segment containers ih =>
    obtain ⟨clear, unmarked⟩ := List.forall_mem_cons.1 unmarked
    obtain ⟨here, legible⟩ := List.forall_mem_cons.1 legible
    rw [List.map_cons, parseContainers_cons_eq_ok_iff clear]
    exact ⟨segment, containers, rfl, Segment.parse_text here, ih legible unmarked⟩

end Addressing

/-! ### Reading and writing references -/

namespace Path

variable {path other : Path}

/-- The written form of a legible path falls into its segments. -/
theorem referenceParts_text (legible : path.Legible) :
    referenceParts path.text = path.segments.map Segment.text := by
  have filled : path.segments.map (fun segment => segment.text.toList) ≠ [] := by
    simp [Path.segments]
  have dotless : ∀ piece ∈ path.segments.map (fun segment => segment.text.toList), '.' ∉ piece := by
    intro piece mem
    obtain ⟨segment, there, rfl⟩ := List.mem_map.1 mem
    exact (legible segment there).2
  unfold referenceParts Path.text
  rw [String.toList_ofList, Text.cut_join filled dotless, List.map_map]
  simp

theorem eq_of_segments_eq (eq : path.segments = other.segments) : path = other := by
  obtain ⟨containers, leaf⟩ := path
  obtain ⟨before, last⟩ := other
  obtain ⟨rfl, tail⟩ := List.append_inj' eq rfl
  cases tail
  rfl

/-- Legible paths that are written alike are equal. -/
theorem eq_of_text_eq (legible : path.Legible) (also : other.Legible)
    (eq : path.text = other.text) : path = other := by
  have parts := referenceParts_text legible
  rw [eq, referenceParts_text also] at parts
  refine eq_of_segments_eq (Segment.eq_of_map_text_eq ?_ ?_ parts.symm)
  · intro segment mem
    exact (legible segment mem).1
  · intro segment mem
    exact (also segment mem).1

end Path

namespace Addressing

variable {addressing : Addressing} {reference : String} {path : Path}

/-- A legible path is read back from its written form, if no container is a marker of the root page
and no position is too high. -/
theorem parse_text (legible : path.Legible)
    (unmarked : ∀ segment ∈ path.containers, segment.text ≠ addressing.rootPage)
    (within : ∀ segment ∈ path.segments, addressing.exceeds segment = false) :
    addressing.parse path.text = .ok path := by
  have parts : referenceParts path.text = path.containers.map Segment.text ++ [path.leaf.text] := by
    rw [Path.referenceParts_text legible, Path.segments, List.map_append]
    rfl
  refine parse_eq_ok_iff.2 ⟨?_, ?_, within⟩
  · rw [parts, List.getLastD_concat]
    exact Segment.parse_text (legible path.leaf (by simp [Path.segments])).1
  · rw [parts, List.dropLast_concat]
    exact parseContainers_map_text
      (fun segment mem => (legible segment (by simp [Path.segments, mem])).1) unmarked

theorem referenceParts_ne_nil (reference : String) : referenceParts reference ≠ [] := by
  simp [referenceParts, Text.cut_ne_nil]

theorem getLastD_referenceParts (reference : String) :
    (referenceParts reference).getLastD "" =
      (referenceParts reference).getLast (referenceParts_ne_nil reference) := by
  rw [List.getLastD_eq_getLast?, List.getLast?_eq_some_getLast (referenceParts_ne_nil reference)]
  rfl

/-- Each segment of what is read stands in the reference. -/
theorem exists_part_of_parse (read : addressing.parse reference = .ok path) :
    ∀ segment ∈ path.segments, ∃ part ∈ referenceParts reference,
      Segment.parse reference part = .ok segment := by
  obtain ⟨last, before, -⟩ := parse_eq_ok_iff.1 read
  rw [getLastD_referenceParts] at last
  intro segment mem
  rcases List.mem_append.1 mem with mem | mem
  · obtain ⟨part, there, parsed⟩ := exists_part_of_parseContainers before segment mem
    exact ⟨part, (List.dropLast_sublist _).subset there, parsed⟩
  · rw [List.mem_singleton.1 mem]
    exact ⟨_, List.getLast_mem _, last⟩

theorem dot_not_mem_part {part : String} (mem : part ∈ referenceParts reference) :
    '.' ∉ part.toList := by
  obtain ⟨piece, there, rfl⟩ := List.mem_map.1 mem
  rw [String.toList_ofList]
  exact Text.not_mem_of_mem_cut there

/-- What is read is legible. -/
theorem legible_of_parse (read : addressing.parse reference = .ok path) : path.Legible := by
  intro segment mem
  obtain ⟨part, there, parsed⟩ := exists_part_of_parse read segment mem
  exact ⟨Segment.legible_of_parse parsed,
    Segment.dot_not_mem_text parsed (dot_not_mem_part there)⟩

/-- A reference that is written canonically is the written form of what it is read as. -/
theorem text_of_canonical (read : addressing.parse reference = .ok path)
    (canonical : addressing.Canonical reference) : path.text = reference := by
  obtain ⟨last, before, -⟩ := parse_eq_ok_iff.1 read
  rw [getLastD_referenceParts] at last
  have faithful (part : String) (mem : part ∈ referenceParts reference) (segment : Segment)
      (parsed : Segment.parse reference part = .ok segment) : segment.text = part :=
    Segment.text_of_parse parsed (canonical.decimal part mem)
  have containers := map_text_of_parseContainers before canonical.unmarked fun part mem =>
    faithful part ((List.dropLast_sublist _).subset mem)
  have leaf := faithful _ (List.getLast_mem _) _ last
  have parts : path.segments.map Segment.text = referenceParts reference := by
    rw [Path.segments, List.map_append, List.map_singleton, containers, leaf,
      List.dropLast_concat_getLast]
  have pieces : path.segments.map (fun segment => segment.text.toList) =
      Text.cut '.' reference.toList := by
    rw [← Function.comp_def, ← List.map_map, parts, referenceParts, List.map_map]
    simp
  unfold Path.text
  rw [pieces, Text.join_cut, String.ofList_toList]

end Addressing

end CaseForm
