import CaseForm.Proofs.Document.Container
import CaseForm.Proofs.Reference.Grammar
import CaseForm.Proofs.Reference.Joined

/-!
Finding a repeating structure where it was made.

A structure is looked for by a name at the end of a reference, and a write goes into it by the same
name with a subscript. The two make what is missing on their way with different rules for it, but
what the one has made, the other finds: behind the containers that they have in common the walk
leaves the structure under its name (`Document.exists_held_of_walk`), and there a search stores what
it finds (`Addressing.locate_rebuilt`).

* `Addressing.locate_again`: a search after a search;
* `located_where_written`: a search after a write as well;
* `marked_row_not_located`: a name with its subscript that is passed over as the marker of the root
  page is no way into a structure.
-/

namespace CaseForm

/-- Where a subscript leads: a position to an item of a list, and any other to an entry of a
group. -/
def subscriptPlace (subscript : String) : RepeatKind × Key :=
  match wholeNumber? subscript.toList with
  | some position => (.list, .item (position - 1).toNat)
  | none => (.group, .member subscript)

/-- A segment with a subscript leads through its name to the place of the subscript. -/
theorem Segment.IsAt.keys_eq {segment : Segment} {name subscript : String}
    (read : segment.IsAt name subscript) :
    segment.keys = [.member name, (subscriptPlace subscript).2] := by
  cases segment with
  | page other => exact read.elim
  | listItem list index =>
    obtain ⟨rfl, whole⟩ := read
    simp [subscriptPlace, whole, Segment.keys]
  | groupEntry group key =>
    obtain ⟨rfl, rfl, other⟩ := read
    simp [subscriptPlace, other, Segment.keys]

namespace Document

variable {α : Type} {reference name subscript : String} {change : Entries Json → Change α}
  {segment : Segment} {containers : List Segment} {members : Entries Json} {found : Focus}
  {held : Repeated} {result : α}

/-- A step with a subscript leaves a structure of its kind under its name. -/
theorem exists_rebuild_eq (read : segment.IsAt name subscript)
    (leads : enter segment members = some found) (inner : Entries Json) :
    ∃ held : Repeated, held.kind = (subscriptPlace subscript).1 ∧
      found.rebuild inner = Entries.set name held.toJson members := by
  cases segment with
  | page other => exact read.elim
  | listItem list index =>
    obtain ⟨rfl, whole⟩ := read
    rw [enter] at leads
    split at leads
    · cases leads
    · cases leads
      exact ⟨.rows _, by rw [subscriptPlace, whole]; rfl, rfl⟩
  | groupEntry group key =>
    obtain ⟨rfl, rfl, other⟩ := read
    rw [enter] at leads
    split at leads
    · cases leads
    · cases leads
      exact ⟨.entries _, by rw [subscriptPlace, other]; rfl, rfl⟩

/-- A walk whose last container has a subscript leaves a structure where the containers before it
lead. -/
theorem exists_held_of_walk (read : segment.IsAt name subscript)
    (ok : (walk reference change (containers ++ [segment]) members).2 = .ok result) :
    ∃ (found : Focus) (held : Repeated), focus containers members = some found ∧
      held.kind = (subscriptPlace subscript).1 ∧
      (walk reference change (containers ++ [segment]) members).1 =
        found.rebuild (Entries.set name held.toJson found.inner) := by
  rw [walk_append] at ok ⊢
  obtain ⟨found, ends⟩ := exists_focus_of_walk ok
  rw [walk_of_focus ends, walk_cons] at ok ⊢
  cases leads : enter segment found.inner with
  | none =>
    rw [leads] at ok
    cases ok
  | some step =>
    obtain ⟨held, same, stored⟩ := exists_rebuild_eq read leads
      (walk reference change [] step.inner).1
    exact ⟨found, held, ends, same, congrArg found.rebuild stored⟩

end Document

namespace Addressing

open Document

variable {addressing : Addressing} {reference name subscript field : String} {kind : RepeatKind}
  {containers : List Segment} {members : Entries Json} {found : Focus} {held : Repeated}
  {path : Path} {value document next : Json}

/-- A structure that stands where its reference leads is located there, and nothing changes. -/
theorem locate_rebuilt (parsed : addressing.parse reference = .ok ⟨containers, .page name⟩)
    (ends : focus containers members = some found) (held : Repeated) :
    let document := Json.obj (found.rebuild (Entries.set name held.toJson found.inner))
    addressing.locate reference held.kind document = (document, .ok held) := by
  intro document
  refine edit_eq_ok_iff.2
    ⟨containers, name, _, held, parsed, focus_rebuild ends _, ?_, ?_, rfl⟩
  · rw [Entries.get?_set_self]
    exact repeated?_kind held
  · rw [Entries.set_set]

/-- A structure that has been located is located again, and nothing changes. -/
theorem locate_again (located : addressing.locate reference kind document = (next, .ok held)) :
    held.kind = kind ∧ addressing.locate reference kind next = (next, .ok held) := by
  obtain ⟨containers, name, found, there, parsed, ends, finds, rfl, rfl⟩ :=
    edit_eq_ok_iff.1 located
  cases kind_of_repeated? finds
  exact ⟨rfl, locate_rebuilt parsed ends there⟩

/-- A structure that has been located stands at the address of its reference. -/
theorem get?_locate (located : addressing.locate reference kind document = (next, .ok held))
    (parsed : addressing.parse reference = .ok path) :
    next.get? path.address = some held.toJson := by
  obtain ⟨_, also, -, rfl, there⟩ := get?_edit_self located parsed
  exact there

/-! ### Writing into a structure -/

/-- A plain name is read as the page of this name. -/
theorem eq_of_parse_name (dotless : '.' ∉ field.toList) (unopened : '(' ∉ field.toList)
    (read : addressing.parse field = .ok path) : path = ⟨[], .page field⟩ := by
  have parts : referenceParts field = [field] := by
    rw [referenceParts, Text.cut_of_not_mem dotless]
    simp
  obtain ⟨containers, leaf⟩ := path
  obtain ⟨last, before, -⟩ := parse_eq_ok_iff.1 read
  rw [parts] at last before
  cases before
  rcases Segment.parse_eq_ok_iff.1 last with ⟨page, -⟩ | ⟨_, _, split, -⟩
  · exact congrArg (Path.mk []) page
  · have whole : field.toList = _ := split
    exact absurd (by simp [whole]) unopened

/-- A reference that goes on with a subscript and a field is read as far as its name by itself, and
then as the segment of the name and the subscript. -/
theorem exists_of_parse_entryReference (last : (referenceParts reference).getLastD "" = name)
    (word : Segment.Word name) (keyDotless : '.' ∉ subscript.toList)
    (dotless : '.' ∉ field.toList) (unopened : '(' ∉ field.toList)
    (unmarked : Segment.bracketed name subscript ≠ addressing.rootPage)
    (read : addressing.parse (entryReference reference subscript field) = .ok path) :
    ∃ containers segment, segment.IsAt name subscript ∧
      addressing.parse reference = .ok ⟨containers, .page name⟩ ∧
      path = ⟨containers ++ [segment], .page field⟩ := by
  obtain ⟨before, within, outer, bounds, inside, rfl⟩ := parse_append_dot_iff.1 read
  cases eq_of_parse_name dotless unopened inside
  have parts : referenceParts (reference ++ ("(" ++ subscript ++ ")")) =
      (referenceParts reference).dropLast ++ [Segment.bracketed name subscript] := by
    rw [referenceParts_append (by simpa using keyDotless), last, Segment.bracketed,
      ← String.append_assoc, ← String.append_assoc]
  rw [parts] at outer
  obtain ⟨containers, rest, rfl, around, tail⟩ := parseContainers_append_eq_ok_iff.1 outer
  obtain ⟨segment, none, rfl, entered, done⟩ := (parseContainers_cons_eq_ok_iff unmarked).1 tail
  cases done
  refine ⟨containers, segment, Segment.isAt_of_parse entered, parse_eq_ok_iff.2
    ⟨by rw [last, Segment.parse_word word], parseContainers_congr around _, ?_⟩, by simp⟩
  intro other mem
  rcases List.mem_append.1 mem with there | here
  · exact bounds other (List.mem_append_left _ there)
  · rw [List.mem_singleton.1 here]
    rfl

/-- What a write goes into is located afterwards, and nothing changes. -/
theorem locate_of_write {segment : Segment} (enters : segment.IsAt name subscript)
    (parsed : addressing.parse reference = .ok ⟨containers, .page name⟩)
    (put : (Path.mk (containers ++ [segment]) (.page field)).put value document = some next) :
    ∃ held, addressing.locate reference (subscriptPlace subscript).1 next = (next, .ok held) := by
  rw [Path.put, Path.strides, put_strides "" _ _ _ _ _ (by simp)] at put
  obtain ⟨ok, made⟩ := Change.document?_eq_some_iff.1 put
  obtain ⟨found, held, ends, same, stored⟩ := exists_held_of_walk enters ok
  refine ⟨held, ?_⟩
  rw [← made, stored, ← same]
  exact locate_rebuilt parsed ends held

end Addressing

/-- To locate a repeating structure that has been located changes nothing and finds the same: a
structure of the kind that was asked for, which is what the document holds at the address of the
reference. And a write that goes into a structure by a subscript makes it to be found. Let a
reference end with a plain name, and write a value under the reference, a subscript and a plain
field, where the name with the subscript is not the marker of the root page. If the write succeeds,
the structure is located at the reference, as a list or a group after the subscript, and nothing
changes. Its item or entry has the value in the field, or a populated container that stood there
before. -/
theorem located_where_written (addressing : Addressing) (reference : String) :
    (∀ kind document next held,
      addressing.locate reference kind document = (next, .ok held) →
        held.kind = kind ∧
        (∃ path, addressing.parse reference = .ok path ∧
          next.get? path.address = some held.toJson) ∧
        addressing.locate reference kind next = (next, .ok held)) ∧
    ∀ name subscript field value document next,
      (referenceParts reference).getLastD "" = name → Segment.Word name →
      '.' ∉ subscript.toList → '.' ∉ field.toList → '(' ∉ field.toList →
      Segment.bracketed name subscript ≠ addressing.rootPage →
      addressing.write (entryReference reference subscript field) value document =
        (next, .ok ()) →
      let (kind, place) := subscriptPlace subscript
      ∃ path held, addressing.parse reference = .ok path ∧ held.kind = kind ∧
        addressing.locate reference kind next = (next, .ok held) ∧
        held.toJson.get? [place, .member field] = some (Document.overwrite value
          ((document.get? (path.address ++ [place, .member field])).getD .null)) := by
  constructor
  · intro kind document next held located
    obtain ⟨same, again⟩ := Addressing.locate_again located
    obtain ⟨containers, name, _, _, parsed, -⟩ := Addressing.edit_eq_ok_iff.1 located
    exact ⟨same, ⟨_, parsed, Addressing.get?_locate located parsed⟩, again⟩
  · intro name subscript field value document next last word keyDotless dotless unopened unmarked
      written
    obtain ⟨path, read, put⟩ := (addressing.write_eq_ok_iff ..).1 written
    obtain ⟨containers, segment, enters, parsed, rfl⟩ := Addressing.exists_of_parse_entryReference
      last word keyDotless dotless unopened unmarked read
    obtain ⟨held, located⟩ := Addressing.locate_of_write enters parsed put
    refine ⟨_, held, parsed, (Addressing.locate_again located).1, located, ?_⟩
    -- The address of the field is that of the structure, then the place of the subscript.
    have address : (Path.mk (containers ++ [segment]) (.page field)).address =
        (Path.mk containers (.page name)).address ++
          [(subscriptPlace subscript).2, .member field] := by
      rw [Path.address_eq, Path.address_eq, List.flatMap_append, List.flatMap_singleton,
        enters.keys_eq]
      simp [Segment.keys]
    have there := Path.get?_put_self put []
    rw [List.append_nil, address, Json.get?_append, Addressing.get?_locate located parsed] at there
    exact there

/-- A group is made in the place of a text and found again, and a list that is written into at a
position is found with the value in the row there. -/
theorem located_where_written_position :
    (∃ next, Addressing.standard.locate "A.B" .group (.obj [("A", .str "x")]) =
        (next, .ok (.entries [])) ∧
      Addressing.standard.locate "A.B" .group next = (next, .ok (.entries []))) ∧
    ∃ next held, Addressing.standard.write "pyWorkPage.L(+02).x" (.str "v")
        (.obj [("L", .str "y")]) = (next, .ok ()) ∧
      Addressing.standard.locate "pyWorkPage.L" .list next = (next, .ok held) ∧
      held.toJson.get? [.item 1, .member "x"] = some (.str "v") := by
  constructor
  · have located : Addressing.standard.locate "A.B" .group (.obj [("A", .str "x")]) =
        (.obj [("A", .obj [("B", .obj [])])], .ok (.entries [])) := rfl
    obtain ⟨searches, -⟩ := located_where_written Addressing.standard "A.B"
    obtain ⟨-, -, again⟩ := searches _ _ _ _ located
    exact ⟨_, located, again⟩
  · have written : Addressing.standard.write "pyWorkPage.L(+02).x" (.str "v")
        (.obj [("L", .str "y")]) = (.obj [("L", .arr [.obj [], .obj [("x", .str "v")]])], .ok ()) :=
      rfl
    obtain ⟨-, writes⟩ := located_where_written Addressing.standard "pyWorkPage.L"
    obtain ⟨path, held, parsed, -, located, there⟩ := writes "L" "+02" "x" _ _ _ rfl
      (by decide) (by decide) (by decide) (by decide) (by decide) written
    have read : Addressing.standard.parse "pyWorkPage.L" = .ok ⟨[], .page "L"⟩ := rfl
    rw [read] at parsed
    cases parsed
    exact ⟨_, held, written, located, there⟩

/-- A row that looks like the marker of the root page is passed over, so the write goes past the
list, and looking for the list makes an empty one. -/
theorem marked_row_not_located :
    let addressing : Addressing := ⟨"L(1)", 10⟩
    let written : Json := .obj [("x", .str "v")]
    addressing.write (entryReference "L" "1" "x") (.str "v") (.obj []) = (written, .ok ()) ∧
      addressing.locate "L" .list written =
        (.obj [("L", .arr []), ("x", .str "v")], .ok (.rows [])) :=
  ⟨rfl, rfl⟩

end CaseForm
