import CaseForm.Proofs.Document.Container
import CaseForm.Proofs.Reference.Joined

/-!
The printed form of a reference.

A reference may be written in many ways: positions with signs and leading zeros, and markers of the
root page in front of any container. What is read of it can be printed again, and the printed form
stands for the same path (`Addressing.parse_text_of_parse`). A write only looks at the path; the
text of the reference shows in the errors alone (`Document.walk_quoting`), so a write by the printed
form does what a write by the reference does.
-/

namespace CaseForm

/-- The error with another reference in place of the one that it names. -/
def ReferenceError.quoting (reference : String) : ReferenceError → ReferenceError
  | .malformed _ segment reason => .malformed reference segment reason
  | .invalidIndex _ segment => .invalidIndex reference segment
  | .shapeConflict _ segment => .shapeConflict reference segment

/-! ### Reading the printed form -/

/-- A segment is printed as it was written, or with a subscript. -/
theorem Segment.text_eq_or_subscript {reference text : String} {segment : Segment}
    (read : parse reference text = .ok segment) :
    segment.text = text ∨ '(' ∈ segment.text.toList := by
  rcases parse_eq_ok_iff.1 read with ⟨rfl, -⟩ | ⟨name, key, -, -, -, -, -, read⟩
  · exact .inl rfl
  · right
    unfold ofSubscript at read
    split at read
    · split_ifs at read
      cases read
      simp [toList_text_listItem]
    · cases read
      simp [toList_text_groupEntry]

namespace Addressing

variable {addressing : Addressing} {reference : String} {path : Path}

/-- No container is printed like the marker of the root page, if the marker has no subscript. -/
theorem text_ne_rootPage (plain : '(' ∉ addressing.rootPage.toList) {parts : List String}
    {segments : List Segment} (read : addressing.parseContainers reference parts = .ok segments) :
    ∀ segment ∈ segments, segment.text ≠ addressing.rootPage := by
  rw [← parseContainers_filter] at read
  intro segment mem marked
  obtain ⟨part, kept, here⟩ := exists_part_of_parseContainers read segment mem
  rcases Segment.text_eq_or_subscript here with same | subscript
  · -- The segment stands in the reference just like the marker, so it was passed over.
    simpa [← same, marked] using (List.mem_filter.1 kept).2
  · exact plain (marked ▸ subscript)

/-- What is read of a reference is read again from its printed form. -/
theorem parse_text_of_parse (plain : '(' ∉ addressing.rootPage.toList)
    (read : addressing.parse reference = .ok path) : addressing.parse path.text = .ok path := by
  obtain ⟨-, before, within⟩ := parse_eq_ok_iff.1 read
  exact parse_text (legible_of_parse read) (text_ne_rootPage plain before) within

end Addressing

/-! ### Writing by the printed form -/

namespace Document

variable {α : Type}

/-- A walk shows its reference in errors only, if what is done at its end does so. -/
theorem walk_quoting (reference text : String) {change other : Entries Json → Change α}
    (alike : ∀ members,
      other members = ((change members).1, (change members).2.mapError (·.quoting text)))
    (containers : List Segment) (members : Entries Json) :
    walk text other containers members =
      ((walk reference change containers members).1,
        (walk reference change containers members).2.mapError (·.quoting text)) := by
  induction containers generalizing members with
  | nil => exact alike members
  | cons segment rest ih =>
    rw [walk_cons, walk_cons]
    cases enter segment members with
    | none => rfl
    | some step => simp only [ih]

theorem assign_quoting (reference text : String) (leaf : Segment) (value : Json)
    (members : Entries Json) :
    assign text leaf value members =
      ((assign reference leaf value members).1,
        (assign reference leaf value members).2.mapError (·.quoting text)) := by
  cases leaf with
  | page name => rfl
  | listItem name index =>
    rw [assign, assign]
    cases (Entries.get? name members).getD .null <;> rfl
  | groupEntry name key =>
    rw [assign, assign]
    cases (Entries.get? name members).getD .null <;> rfl

end Document

/-- Where the marker of the root page has no parentheses, a reference that can be read may be
replaced by its printed form, the segments that were read of it with dots between them. The printed
form is read as the same containers and the same last segment, so it is printed as itself, and for
every document and value a write by it leaves the same document behind and gives the same result;
an error only names the printed form instead of the reference. -/
theorem write_printed (addressing : Addressing) (plain : '(' ∉ addressing.rootPage.toList)
    {reference : String} {path : Path} (read : addressing.parse reference = .ok path) :
    addressing.parse path.text = .ok path ∧
    (addressing.parse path.text).map Path.text = .ok path.text ∧
    ∀ value document, addressing.write path.text value document =
      ((addressing.write reference value document).1,
        (addressing.write reference value document).2.mapError (·.quoting path.text)) := by
  have again := addressing.parse_text_of_parse plain read
  refine ⟨again, by rw [again]; rfl, ?_⟩
  intro value document
  have walked := Document.walk_quoting reference path.text
    (Document.assign_quoting reference path.text path.leaf value) path.containers document.members
  simp only [Addressing.write, read, again, walked]

/-- A marker, a sign and zeros are not printed. Both ways to write the reference fill up the list,
and both meet the same conflict. -/
theorem write_printed_position :
    Addressing.standard.parse "pyWorkPage.L(+02).pyWorkPage" =
        .ok ⟨[.listItem "L" 1], .page "pyWorkPage"⟩ ∧
      (∀ document, (Addressing.standard.write "L(2).pyWorkPage" (.str "x") document).1 =
        (Addressing.standard.write "pyWorkPage.L(+02).pyWorkPage" (.str "x") document).1) ∧
      Addressing.standard.write "L(2).pyWorkPage" (.str "x") (.obj [("L", .obj [])]) =
        (.obj [("L", .obj [])], .error (.shapeConflict "L(2).pyWorkPage" "L(2)")) := by
  have read : Addressing.standard.parse "pyWorkPage.L(+02).pyWorkPage" =
      .ok ⟨[.listItem "L" 1], .page "pyWorkPage"⟩ := rfl
  have printed : Path.text ⟨[.listItem "L" 1], .page "pyWorkPage"⟩ = "L(2).pyWorkPage" := rfl
  obtain ⟨-, -, alike⟩ := write_printed Addressing.standard (by decide) read
  rw [printed] at alike
  refine ⟨read, fun document => by rw [alike], ?_⟩
  rw [alike]
  rfl

end CaseForm
