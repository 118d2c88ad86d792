import CaseForm.Proofs.Reference.Grammar
import CaseForm.Proofs.Reference.Joined
import Mathlib.Data.List.Forall2

/-!
Positions in references.

A decimal subscript of any length is read as the number that it denotes, as long as that has 64 bits
with a sign; a greater one is no number to the reader, but the key of a group
(`Segment.Numbered.parse_eq`). A reference is read part by part, and is refused for the first part
that is refused or the first position above the highest. So where all other parts are sound, it is
read or refused for the sake of one part (`Addressing.parse_of_part_error`,
`Addressing.parse_of_part_exceeds`, `Addressing.readsPart`).
-/

namespace CaseForm

/-! ### Decimal subscripts -/

/-- Digits are a whole number if it is not too great. -/
theorem wholeNumber?_of_digits {digits : List Char} (filled : digits ≠ [])
    (numeric : ∀ c ∈ digits, c.isDigit = true) :
    wholeNumber? digits =
      if Nat.ofDigitChars 10 digits 0 ≤ 0x7fffffffffffffff
      then some (Nat.ofDigitChars 10 digits 0 : Int) else none := by
  have unsigned (sign : Char) (other : sign.isDigit = false) : digits.head? ≠ some sign := by
    intro first
    rw [numeric sign (List.mem_of_head? first)] at other
    cases other
  rw [wholeNumber?_of_unsigned (unsigned '+' rfl) (unsigned '-' rfl)]
  have all : digits.all Char.isDigit = true := List.all_eq_true.2 numeric
  unfold boundedNumber?
  by_cases small : Nat.ofDigitChars 10 digits 0 ≤ 0x7fffffffffffffff
  · rw [if_pos ⟨filled, all, small⟩, if_pos small]
    rfl
  · rw [if_neg fun ⟨_, _, within⟩ => small within, if_neg small]
    rfl

namespace Segment

/-- A name with a decimal subscript, and the number that the digits denote. -/
structure Numbered (name digits : String) (number : Nat) : Prop where
  named : name ≠ ""
  unopened : '(' ∉ name.toList
  filled : digits ≠ ""
  numeric : ∀ c ∈ digits.toList, c.isDigit = true
  denotes : Nat.ofDigitChars 10 digits.toList 0 = number

namespace Numbered

variable {reference name digits : String} {number : Nat}

/-- Digits are a plain key. -/
theorem word (decimal : Numbered name digits number) : Word digits := by
  refine ⟨decimal.filled, fun mem => ?_, fun mem => ?_⟩
  · cases decimal.numeric _ mem
  · cases decimal.numeric _ mem

/-- A decimal subscript is read as a whole number if it is not too great. -/
theorem parse_eq (decimal : Numbered name digits number) :
    parse reference (bracketed name digits) =
      if number ≤ 0x7fffffffffffffff then
        if 1 ≤ number then .ok (.listItem name (number - 1))
        else .error (.invalidIndex reference (bracketed name digits))
      else .ok (.groupEntry name digits) := by
  rw [parse_bracketed decimal.named decimal.unopened decimal.word, ofSubscript,
    wholeNumber?_of_digits (by simpa using decimal.filled) decimal.numeric, decimal.denotes]
  split_ifs with small positive
  · have one : (1 : Int) ≤ (number : Int) := by omega
    have index : ((number : Int) - 1).toNat = number - 1 := by omega
    simp only [if_pos one, index, String.ofList_toList]
  · have zero : ¬ (1 : Int) ≤ (number : Int) := by omega
    simp only [if_neg zero]
  · simp only [String.ofList_toList]

theorem parse_of_zero (decimal : Numbered name digits 0) :
    parse reference (bracketed name digits) =
      .error (.invalidIndex reference (bracketed name digits)) := by
  rw [decimal.parse_eq, if_pos (Nat.zero_le _), if_neg (by omega)]

theorem parse_of_gt (decimal : Numbered name digits number) (great : 0x7fffffffffffffff < number) :
    parse reference (bracketed name digits) = .ok (.groupEntry name digits) := by
  rw [decimal.parse_eq, if_neg (by omega)]

theorem parse_of_pos (decimal : Numbered name digits number) (positive : 1 ≤ number)
    (small : number ≤ 0x7fffffffffffffff) :
    parse reference (bracketed name digits) = .ok (.listItem name (number - 1)) := by
  rw [decimal.parse_eq, if_pos small, if_pos positive]

end Numbered

end Segment

/-! ### References part by part -/

namespace Addressing

variable {addressing : Addressing} {reference text : String} {path : Path} {segment : Segment}
  {e : ReferenceError}

/-- The parts of a reference that are read: its containers, without markers of the root page, and
the last part. -/
def parts (addressing : Addressing) (reference : String) : List String :=
  (referenceParts reference).dropLast.filter (· != addressing.rootPage) ++
    [(referenceParts reference).getLastD ""]

/-- A part of a reference is read as a segment that names no position above the highest. -/
def Sound (addressing : Addressing) (reference part : String) : Prop :=
  ∃ segment, Segment.parse reference part = .ok segment ∧ addressing.exceeds segment = false

/-- The reference is read, and one of its parts as a segment, wherever that part stands. -/
def ReadsPart (addressing : Addressing) (reference part : String) (segment : Segment) : Prop :=
  part ∈ addressing.parts reference ∧ ∃ path, addressing.parse reference = .ok path ∧
    ∀ i : Nat, (addressing.parts reference)[i]? = some part → path.segments[i]? = some segment

/-- A part that is no marker of the root page is read. -/
theorem mem_parts (mem : text ∈ referenceParts reference) (unmarked : text ≠ addressing.rootPage) :
    text ∈ addressing.parts reference := by
  rw [← List.dropLast_concat_getLast (referenceParts_ne_nil reference),
    ← getLastD_referenceParts] at mem
  rcases List.mem_append.1 mem with before | last
  · exact List.mem_append_left _ (List.mem_filter.2 ⟨before, by simpa using unmarked⟩)
  · exact List.mem_append_right _ last

/-- Containers are read one by one. -/
theorem parseContainers_of_forall₂ {parts : List String} {segments : List Segment}
    (unmarked : ∀ part ∈ parts, part ≠ addressing.rootPage)
    (read : List.Forall₂ (fun part segment => Segment.parse reference part = .ok segment)
      parts segments) :
    addressing.parseContainers reference parts = .ok segments := by
  induction read with
  | nil => rfl
  | cons here rest ih =>
    obtain ⟨clear, unmarked⟩ := List.forall_mem_cons.1 unmarked
    exact (parseContainers_cons_eq_ok_iff clear).2 ⟨_, _, rfl, here, ih unmarked⟩

/-- Containers are refused for a part that is refused, if the others are read. -/
theorem parseContainers_eq_error {parts : List String}
    (unmarked : ∀ part ∈ parts, part ≠ addressing.rootPage) (mem : text ∈ parts)
    (refused : Segment.parse reference text = .error e)
    (others : ∀ part ∈ parts, part ≠ text → addressing.Sound reference part) :
    addressing.parseContainers reference parts = .error e := by
  induction parts with
  | nil => cases mem
  | cons part parts ih =>
    obtain ⟨clear, unmarked⟩ := List.forall_mem_cons.1 unmarked
    obtain ⟨here, others⟩ := List.forall_mem_cons.1 others
    rw [parseContainers, if_neg clear]
    by_cases same : part = text
    · rw [same, refused]
      rfl
    · obtain ⟨segment, read, -⟩ := here same
      rw [read, ih unmarked ((List.mem_cons.1 mem).resolve_left (Ne.symm same)) others]
      rfl

theorem ne_rootPage_of_mem_filter {parts : List String} :
    ∀ part ∈ parts.filter (· != addressing.rootPage), part ≠ addressing.rootPage := by
  intro part mem
  simpa using (List.mem_filter.1 mem).2

/-- A reference is refused for a part that is refused, if the others are sound. -/
theorem parse_of_part_error (mem : text ∈ addressing.parts reference)
    (refused : Segment.parse reference text = .error e)
    (others : ∀ part ∈ addressing.parts reference, part ≠ text →
      addressing.Sound reference part) : addressing.parse reference = .error e := by
  obtain ⟨before, last⟩ := List.forall_mem_append.1 others
  unfold parse
  by_cases same : (referenceParts reference).getLastD "" = text
  · simp only [same, refused]
    rfl
  · obtain ⟨leaf, read, -⟩ := last _ (List.mem_singleton_self _) same
    have inner := (List.mem_append.1 mem).resolve_right fun final =>
      same (List.mem_singleton.1 final).symm
    have containers := parseContainers_eq_error ne_rootPage_of_mem_filter inner refused before
    rw [parseContainers_filter] at containers
    simp only [read, containers]
    rfl

/-- What is read of the parts of a reference, one by one. -/
def Reads (addressing : Addressing) (reference : String) (path : Path) : Prop :=
  List.Forall₂ (fun part segment => Segment.parse reference part = .ok segment)
    (addressing.parts reference) path.segments

theorem exists_segments {parts : List String}
    (sound : ∀ part ∈ parts, ∃ segment, Segment.parse reference part = .ok segment) :
    ∃ segments, List.Forall₂ (fun part segment => Segment.parse reference part = .ok segment)
      parts segments := by
  induction parts with
  | nil => exact ⟨[], .nil⟩
  | cons part parts ih =>
    obtain ⟨⟨segment, here⟩, sound⟩ := List.forall_mem_cons.1 sound
    obtain ⟨segments, rest⟩ := ih sound
    exact ⟨segment :: segments, .cons here rest⟩

/-- Where all parts are read, the reference is, unless one of them names too high a position. -/
theorem exists_reads
    (sound : ∀ part ∈ addressing.parts reference, ∃ segment,
      Segment.parse reference part = .ok segment) :
    ∃ path, addressing.Reads reference path ∧ addressing.parse reference =
      match path.segments.find? addressing.exceeds with
      | some segment => .error (.invalidIndex reference segment.text)
      | none => .ok path := by
  obtain ⟨before, last⟩ := List.forall_mem_append.1 sound
  obtain ⟨leaf, final⟩ := last _ (List.mem_singleton_self _)
  obtain ⟨segments, inner⟩ := exists_segments before
  have containers := parseContainers_of_forall₂ ne_rootPage_of_mem_filter inner
  rw [parseContainers_filter] at containers
  refine ⟨⟨segments, leaf⟩, List.rel_append inner (.cons final .nil), ?_⟩
  unfold parse
  simp only [final, containers, bind, Except.bind]
  cases (Path.segments ⟨segments, leaf⟩).find? addressing.exceeds <;> rfl

/-- What is read of a part stands where the part does. -/
theorem Reads.getElem? (reads : addressing.Reads reference path)
    (read : Segment.parse reference text = .ok segment) {i : Nat}
    (there : (addressing.parts reference)[i]? = some text) : path.segments[i]? = some segment := by
  obtain ⟨inside, rfl⟩ := List.getElem?_eq_some_iff.1 there
  have also : i < path.segments.length := by rwa [← reads.length_eq]
  have here := Except.ok.inj ((reads.get inside also).symm.trans read)
  exact List.getElem?_eq_some_iff.2 ⟨also, here⟩

theorem Reads.exists_part (reads : addressing.Reads reference path)
    (mem : segment ∈ path.segments) :
    ∃ part ∈ addressing.parts reference, Segment.parse reference part = .ok segment := by
  obtain ⟨i, inside, rfl⟩ := List.getElem_of_mem mem
  have also : i < (addressing.parts reference).length := by rwa [reads.length_eq]
  exact ⟨_, List.getElem_mem also, reads.get also inside⟩

section Part

variable (read : Segment.parse reference text = .ok segment)
  (others : ∀ part ∈ addressing.parts reference, part ≠ text → addressing.Sound reference part)

include read others

theorem exists_reads_of_part :
    ∃ path, addressing.Reads reference path ∧ addressing.parse reference =
      match path.segments.find? addressing.exceeds with
      | some segment => .error (.invalidIndex reference segment.text)
      | none => .ok path := by
  refine exists_reads fun part there => ?_
  by_cases same : part = text
  · exact ⟨segment, same ▸ read⟩
  · obtain ⟨other, also, -⟩ := others part there same
    exact ⟨other, also⟩

/-- Only the segment that is read of the part may name too high a position. -/
theorem eq_of_exceeds {other : Segment} (reads : addressing.Reads reference path)
    (there : other ∈ path.segments) (exceeds : addressing.exceeds other = true) :
    other = segment := by
  obtain ⟨part, stands, also⟩ := reads.exists_part there
  by_cases same : part = text
  · rw [same, read] at also
    exact (Except.ok.inj also).symm
  · obtain ⟨sound, here, within⟩ := others part stands same
    rw [also] at here
    cases here
    rw [within] at exceeds
    cases exceeds

/-- A reference is refused for a part with too high a position, if the others are sound. -/
theorem parse_of_part_exceeds (mem : text ∈ addressing.parts reference)
    (exceeds : addressing.exceeds segment = true) :
    addressing.parse reference = .error (.invalidIndex reference segment.text) := by
  obtain ⟨path, reads, parsed⟩ := exists_reads_of_part read others
  cases found : path.segments.find? addressing.exceeds with
  | some other =>
    have same := eq_of_exceeds read others reads (List.mem_of_find?_eq_some found)
      (List.find?_some found)
    rw [parsed, found, same]
  | none =>
    obtain ⟨i, there⟩ := List.getElem?_of_mem mem
    have stands := List.mem_of_getElem? (reads.getElem? read there)
    exact absurd exceeds (List.find?_eq_none.1 found _ stands)

/-- A reference is read with a part that is sound, if the others are. -/
theorem readsPart (mem : text ∈ addressing.parts reference)
    (within : addressing.exceeds segment = false) :
    addressing.ReadsPart reference text segment := by
  obtain ⟨path, reads, parsed⟩ := exists_reads_of_part read others
  refine ⟨mem, path, ?_, fun i there => reads.getElem? read there⟩
  cases found : path.segments.find? addressing.exceeds with
  | none => rw [parsed, found]
  | some other =>
    have exceeds := List.find?_some found
    rw [eq_of_exceeds read others reads (List.mem_of_find?_eq_some found) exceeds,
      within] at exceeds
    cases exceeds

end Part

end Addressing

end CaseForm
