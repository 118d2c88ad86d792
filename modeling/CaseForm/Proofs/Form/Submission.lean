import CaseForm.Proofs.Document.Slot
import CaseForm.Proofs.Form.Running

/-!
What is submitted of an edit.

An edit is kept under its reference as it was written, and the submission document is nested from
all references in their order. References that are written differently may lead to one slot; the
last of them in this order counts then, whichever was edited last (`edited_slot`).
-/

namespace CaseForm

/-- A table lists a value that was inserted between the entries before and after it. -/
theorem Table.exists_entries_insert {α : Type} (table : Table α) (key : String) (value : α) :
    ∃ before after, (table.insert key value).entries = before ++ (key, value) :: after := by
  have there : (table.insert key value).get? key = some value := by simp
  exact List.append_of_mem (((table.insert key value).mem_entries_iff key value).2 there)

namespace Addressing

variable {addressing : Addressing}

/-- Entries are written if those before, one of them and those after are, in turn. -/
theorem exists_of_writeAll {before after : List (String × Json)} {reference : String}
    {path : Path} {value old new : Json} (read : addressing.parse reference = .ok path)
    (written : addressing.writeAll (before ++ (reference, value) :: after) old = .ok new) :
    ∃ earlier next, addressing.writeAll before old = .ok earlier ∧
      Document.putAll (addressing.writes before) old = some earlier ∧
      path.put value earlier = some next ∧
      Document.putAll (addressing.writes after) next = some new := by
  obtain ⟨readable, all⟩ := writeAll_eq_ok_iff.1 written
  rw [writes_append, writes_cons read, Document.putAll_append] at all
  obtain ⟨earlier, first, all⟩ := Option.bind_eq_some_iff.1 all
  obtain ⟨next, here, last⟩ := Option.bind_eq_some_iff.1 all
  refine ⟨earlier, next, writeAll_eq_ok_iff.2 ⟨?_, first⟩, first, here, last⟩
  intro entry mem
  exact readable entry (List.mem_append_left _ mem)

end Addressing

/-- In the slot of an edit the submission document holds

* a populated container, if some reference leads strictly inside of the slot;
* otherwise what the references before left there, with the edit and the later values for the same
  slot written over it in turn;
* hence the edit, if no later reference leads to the slot, and none of those before has put a
  container there or around it.

No reference may enter an array around the slot. -/
theorem edited_slot {s s' s'' : Situation} {reference : String} {input : FieldInput} {path : Path}
    {document : Json} (read : s.form.addressing.parse reference = .ok path)
    (edited : Run.edit reference input s = .ok () s')
    (nested : Run.nestedDocument s' = .ok document s'')
    (apart : ∀ other ∈ s.form.addressing.paths s'.form.values.entries,
      ¬ other.Crosses path.address) :
    ∃ value before after earlier,
      input.value s.form.renderer.settings.dateFormat = .ok value ∧
      s'.form.values.entries = before ++ (reference, value) :: after ∧
      s.form.addressing.writeAll before (.obj []) = .ok earlier ∧
      ((∃ other ∈ s.form.addressing.paths s'.form.values.entries, other.Passes path.address) →
        ∃ container, document.get? path.address = some container ∧
          Document.occupied container = true) ∧
      ((∀ other ∈ s.form.addressing.paths s'.form.values.entries, ¬ other.Passes path.address) →
        document.get? path.address =
          some (Document.settle path.address
            (Document.overwrite value ((earlier.get? path.address).getD .null))
            (s.form.addressing.writes after)) ∧
        ((∀ write ∈ s.form.addressing.writes before, write.1.address <+: path.address →
            write.2.isScalar = true) →
          (∀ write ∈ s.form.addressing.writes after, write.1.address ≠ path.address) →
          document.get? path.address = some value)) := by
  obtain ⟨-, value, stored, rfl⟩ := Run.edit_eq_ok_iff.1 edited
  obtain ⟨nested, -⟩ := Run.nestedDocument_eq_ok_iff.1 nested
  obtain ⟨before, after, entries⟩ := s.form.values.exists_entries_insert reference value
  have written : s.form.addressing.writeAll (before ++ (reference, value) :: after) (.obj []) =
      .ok document := by rwa [← entries]
  obtain ⟨earlier, next, wrote, first, here, last⟩ := Addressing.exists_of_writeAll read written
  simp only [entries] at apart ⊢
  generalize s.form.addressing = addressing at *
  have writes : addressing.writes (before ++ (reference, value) :: after) =
      addressing.writes before ++ (path, value) :: addressing.writes after := by
    rw [Addressing.writes_append, Addressing.writes_cons read]
  rw [Addressing.paths, writes] at apart ⊢
  refine ⟨value, before, after, earlier, stored, rfl, wrote, ?_, ?_⟩
  · rintro ⟨other, mem, passes⟩
    obtain ⟨write, member, rfl⟩ := List.mem_map.1 mem
    have all := (Addressing.writeAll_eq_ok_iff.1 written).2
    rw [writes] at all
    exact Document.occupied_of_passes all ⟨write, member, passes⟩ fun other mem =>
      apart other.1 (List.mem_map_of_mem mem)
  · intro ends
    have later {write : Path × Json} (mem : write ∈ addressing.writes after) : write.1 ∈
        (addressing.writes before ++ (path, value) :: addressing.writes after).map (·.1) :=
      List.mem_map_of_mem (List.mem_append_right _ (List.mem_cons_of_mem _ mem))
    have settled := Document.get?_putAll_of_write here last
      (fun write mem => ends write.1 (later mem)) (fun write mem => apart write.1 (later mem))
    refine ⟨settled, ?_⟩
    intro scalar others
    have free : Document.occupied ((earlier.get? path.address).getD .null) = false := by
      refine Document.free_putAll first ?_ ?_ scalar
      · cases path.address with
        | nil => rfl
        | cons key rest => cases key <;> rfl
      · intro write mem
        exact ends write.1 (List.mem_map_of_mem (List.mem_append_left _ mem))
    rw [settled, Document.settle_of_ne others, Document.overwrite_of_free value free]

/-- An open form on an empty page, with values edited before. -/
def openPage (values : List (String × Json)) : Situation where
  form := { Form.build (.ofSettings {}) {} (.start "" "") (.page none ⟨"", true, [], none⟩) with
    values := .ofList values }
  surroundings := {}

/-- A row that is edited beside another is submitted with its value. -/
theorem edited_row_submitted :
    ∃ s' document,
      Run.edit "P.L(2)" (.text "new")
        (openPage [("P.L(1)", .str "x"), ("pyWorkPage.P.M", .str "y")]) = .ok () s' ∧
      Run.nestedDocument s' = .ok document s' ∧
      document.get? [.member "P", .member "L", .item 1] = some (.str "new") := by
  have read : (openPage [("P.L(1)", .str "x"), ("pyWorkPage.P.M", .str "y")]).form.addressing.parse
      "P.L(2)" = .ok ⟨[.page "P"], .listItem "L" 1⟩ := rfl
  have edited : Run.edit "P.L(2)" (.text "new")
      (openPage [("P.L(1)", .str "x"), ("pyWorkPage.P.M", .str "y")]) =
        .ok () (openPage [("P.L(1)", .str "x"), ("P.L(2)", .str "new"),
          ("pyWorkPage.P.M", .str "y")]) := rfl
  have nested : Run.nestedDocument (openPage [("P.L(1)", .str "x"), ("P.L(2)", .str "new"),
      ("pyWorkPage.P.M", .str "y")]) =
        .ok (.obj [("P", .obj [("L", .arr [.str "x", .str "new"]), ("M", .str "y")])])
          (openPage [("P.L(1)", .str "x"), ("P.L(2)", .str "new"),
            ("pyWorkPage.P.M", .str "y")]) := rfl
  have paths : Addressing.standard.paths
      [("P.L(1)", .str "x"), ("P.L(2)", .str "new"), ("pyWorkPage.P.M", .str "y")] =
        [⟨[.page "P"], .listItem "L" 0⟩, ⟨[.page "P"], .listItem "L" 1⟩,
          ⟨[.page "P"], .page "M"⟩] := rfl
  have apart : ∀ other ∈ Addressing.standard.paths
      [("P.L(1)", .str "x"), ("P.L(2)", .str "new"), ("pyWorkPage.P.M", .str "y")],
      ¬ other.Crosses [.member "P", .member "L", .item 1] := by
    rw [paths]
    simp only [List.forall_mem_cons]
    exact ⟨Path.not_crosses_of_plain (by decide) _, Path.not_crosses_of_plain (by decide) _,
      Path.not_crosses_of_plain (by decide) _, by simp⟩
  refine ⟨_, _, edited, nested, ?_⟩
  obtain ⟨value, before, after, earlier, stored, entries, -, -, slot⟩ :=
    edited_slot read edited nested apart
  have split : [("P.L(1)", Json.str "x"), ("P.L(2)", .str "new"), ("pyWorkPage.P.M", .str "y")] =
      before ++ ("P.L(2)", value) :: after := entries
  obtain ⟨rfl, rfl, rfl⟩ : before = [("P.L(1)", .str "x")] ∧ value = .str "new" ∧
      after = [("pyWorkPage.P.M", .str "y")] := by
    rcases before with _ | ⟨first, _ | ⟨second, _ | ⟨third, before⟩⟩⟩ <;> simp_all
  have ends : ∀ other ∈ Addressing.standard.paths
      [("P.L(1)", .str "x"), ("P.L(2)", .str "new"), ("pyWorkPage.P.M", .str "y")],
      ¬ other.Passes [.member "P", .member "L", .item 1] := by
    rw [paths]
    simp [Path.Passes, Path.address, Path.segments, Segment.keys]
  have first : Addressing.standard.writes [("P.L(1)", .str "x")] =
      [(⟨[.page "P"], .listItem "L" 0⟩, .str "x")] := rfl
  have last : Addressing.standard.writes [("pyWorkPage.P.M", .str "y")] =
      [(⟨[.page "P"], .page "M"⟩, .str "y")] := rfl
  refine (slot ends).2 ?_ ?_
  · intro write mem _
    change write ∈ Addressing.standard.writes _ at mem
    rw [first] at mem
    rw [List.mem_singleton.1 mem]
    rfl
  · intro write mem
    change write ∈ Addressing.standard.writes _ at mem
    rw [last] at mem
    rw [List.mem_singleton.1 mem]
    decide

/-- Of two references to one slot the later in their order counts, whichever was edited, and an
edit does not replace a container that another reference has put there. -/
theorem edited_slot_holds_other :
    (∃ s' document path,
      Run.edit "A" (.text "new") (openPage [("pyWorkPage.A", .str "old")]) = .ok () s' ∧
      Run.nestedDocument s' = .ok document s' ∧
      s'.form.addressing.parse "A" = .ok path ∧
      (∀ other ∈ s'.form.addressing.paths s'.form.values.entries, ¬ other.Passes path.address) ∧
      document.get? path.address = some (.str "old")) ∧
    ∃ s' document path,
      Run.edit "pyWorkPage.A" (.text "new") (openPage [("A", .obj [("B", .str "old")])]) =
        .ok () s' ∧
      Run.nestedDocument s' = .ok document s' ∧
      s'.form.addressing.parse "pyWorkPage.A" = .ok path ∧
      (∀ other ∈ s'.form.addressing.paths s'.form.values.entries, ¬ other.Passes path.address) ∧
      document.get? path.address = some (.obj [("B", .str "old")]) := by
  have paths : Addressing.standard.paths [("A", .str "new"), ("pyWorkPage.A", .str "old")] =
      [⟨[], .page "A"⟩, ⟨[], .page "A"⟩] := rfl
  have others : Addressing.standard.paths
      [("A", .obj [("B", .str "old")]), ("pyWorkPage.A", .str "new")] =
        [⟨[], .page "A"⟩, ⟨[], .page "A"⟩] := rfl
  have ends : ∀ other ∈ [(⟨[], .page "A"⟩ : Path), ⟨[], .page "A"⟩],
      ¬ other.Passes (Path.address ⟨[], .page "A"⟩) := by
    simp [Path.Passes, Path.address, Path.segments, Segment.keys]
  exact ⟨⟨openPage [("A", .str "new"), ("pyWorkPage.A", .str "old")], .obj [("A", .str "old")],
      ⟨[], .page "A"⟩, rfl, rfl, rfl, paths ▸ ends, rfl⟩,
    openPage [("A", .obj [("B", .str "old")]), ("pyWorkPage.A", .str "new")],
      .obj [("A", .obj [("B", .str "old")])], ⟨[], .page "A"⟩, rfl, rfl, rfl, others ▸ ends, rfl⟩

end CaseForm
