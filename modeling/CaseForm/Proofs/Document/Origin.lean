import CaseForm.Proofs.Document.Sequence
import CaseForm.Proofs.Reference.Joined

/-!
Where the names in a document come from.

A write of a scalar makes no member but those that its path leads through
(`Path.leads_of_get?_put`), so every name in a nested document is one that some reference spells, as
a page, a list, a group or a key of one (`Document.exists_write_of_member`). The marker of the root
page is no container that a reference is read with (`Addressing.page_rootPage_not_mem`). What is
left are the names that are not looked at when markers are dropped: the last segment, and what a
segment with a subscript is made of (`Path.Spells`).
-/

namespace CaseForm

namespace Path

variable {path : Path} {value old new found : Json} {list : Address} {name : String}

/-- The path goes into the member of this name at a place by its last segment, or by the name or the
key of a segment with a subscript. -/
def Spells (path : Path) (list : Address) (name : String) : Prop :=
  ∃ before segment after inner outer, path.segments = before ++ segment :: after ∧
    (after = [] ∨ segment.isRepeat = true) ∧
    segment.keys = inner ++ .member name :: outer ∧ list = before.flatMap Segment.keys ++ inner

/-- A member that the path goes into is spelled by it, or is a page on its way. -/
theorem spells_or_page (leads : list ++ [.member name] <+: path.address) :
    path.Spells list name ∨ .page name ∈ path.containers := by
  obtain ⟨rest, eq⟩ := leads
  rw [List.append_assoc, List.singleton_append] at eq
  obtain ⟨before, segment, after, inner, outer, split, keys, place⟩ :=
    Segment.exists_of_keys_eq eq.symm
  by_cases named : after = [] ∨ segment.isRepeat = true
  · exact .inl ⟨before, segment, after, inner, outer, split, named, keys, place⟩
  · obtain ⟨later, plain⟩ := not_or.1 named
    have passed : segment ∈ path.containers := by
      have containers : path.containers = path.segments.dropLast := by
        rw [segments, List.dropLast_concat]
      rw [containers, split, List.dropLast_append_cons, List.dropLast_cons_of_ne_nil later]
      simp
    cases segment with
    | page other =>
      rcases inner with _ | ⟨a, inner⟩
      · cases keys
        exact .inr passed
      · simp [Segment.keys] at keys
    | listItem other index => exact absurd rfl plain
    | groupEntry other key => exact absurd rfl plain

/-- A write of a scalar makes no members but on the way of its path. -/
theorem leads_of_get?_put (written : path.put value old = some new)
    (scalar : value.isScalar = true) (there : new.get? (list ++ [.member name]) = some found) :
    list ++ [.member name] <+: path.address ∨
      old.get? (list ++ [.member name]) = some found := by
  by_cases leads : list ++ [.member name] <+: path.address
  · exact .inl leads
  · have kept : ¬ path.Loses (list ++ [.member name]) := by
      intro loses
      rw [get?_put_of_loses written loses] at there
      cases there
    rw [get?_put_scalar written scalar leads kept, Address.fills_concat_member,
      Option.or_none] at there
    exact .inr there

end Path

/-- After writes of scalars a member stands on the way of one of them, or was there before. -/
theorem Document.exists_write_of_member {writes : List (Path × Json)} {old new found : Json}
    {list : Address} {name : String} (written : putAll writes old = some new)
    (scalar : ∀ write ∈ writes, write.2.isScalar = true)
    (there : new.get? (list ++ [.member name]) = some found) :
    (∃ write ∈ writes, list ++ [.member name] <+: write.1.address) ∨
      ∃ earlier, old.get? (list ++ [.member name]) = some earlier := by
  induction writes generalizing old with
  | nil =>
    cases written
    exact .inr ⟨found, there⟩
  | cons write writes ih =>
    obtain ⟨middle, first, rest⟩ := Option.bind_eq_some_iff.1 written
    obtain ⟨plain, scalar⟩ := List.forall_mem_cons.1 scalar
    rcases ih rest scalar with ⟨other, mem, leads⟩ | ⟨earlier, here⟩
    · exact .inl ⟨other, List.mem_cons_of_mem _ mem, leads⟩
    · rcases Path.leads_of_get?_put first plain here with leads | before
      · exact .inl ⟨write, List.mem_cons_self, leads⟩
      · exact .inr ⟨earlier, before⟩

/-- The marker of the root page is none of the containers that are read. -/
theorem Addressing.page_rootPage_not_mem {addressing : Addressing} {reference : String}
    {parts : List String} {segments : List Segment}
    (read : addressing.parseContainers reference parts = .ok segments) :
    .page addressing.rootPage ∉ segments := by
  rw [← parseContainers_filter] at read
  intro mem
  obtain ⟨part, kept, parsed⟩ := exists_part_of_parseContainers read _ mem
  rcases Segment.parse_eq_ok_iff.1 parsed with ⟨same, -⟩ | ⟨_, _, -, -, -, -, -, subscript⟩
  · cases same
    simp at kept
  · unfold Segment.ofSubscript at subscript
    split at subscript
    · split_ifs at subscript
      cases subscript
    · cases subscript

/-- Where the marker of the root page is found in the submission document of scalars: a member of
this name, at whatever depth, is named by a reference of the table, as the last segment or by a
segment with a subscript, which has the marker for its name or its key. So a reference that only
goes through the marker, in front or on its way, does not bring it into the document. -/
theorem root_page_only_where_named (addressing : Addressing) {values : Table Json} {document : Json}
    (scalar : ∀ entry ∈ values.entries, entry.2.isScalar = true)
    (nested : addressing.nest values = .ok document) (list : Address)
    (there : document.get? (list ++ [.member addressing.rootPage]) ≠ none) :
    ∃ reference value path, values.get? reference = some value ∧
      addressing.parse reference = .ok path ∧ path.Spells list addressing.rootPage := by
  obtain ⟨found, there⟩ := Option.ne_none_iff_exists'.1 there
  obtain ⟨-, written⟩ := Addressing.writeAll_eq_ok_iff.1 nested
  rcases Document.exists_write_of_member written
    (Addressing.forall_writes (·.isScalar = true) scalar) there with
    ⟨⟨path, value⟩, mem, leads⟩ | ⟨earlier, here⟩
  · obtain ⟨reference, entry, parsed⟩ := Addressing.mem_writes_iff.1 mem
    obtain ⟨-, containers, -⟩ := Addressing.parse_eq_ok_iff.1 parsed
    refine ⟨reference, value, path, (values.mem_entries_iff ..).1 entry, parsed, ?_⟩
    exact (Path.spells_or_page leads).resolve_right (Addressing.page_rootPage_not_mem containers)
  · -- The empty document has no members.
    cases list with
    | nil => cases here
    | cons key list => cases key <;> cases here

/-- A marker in front of a reference and one on its way are passed over; the member of this name is
the last segment of the reference. -/
theorem root_page_as_last_segment :
    Addressing.standard.nest
        (.ofList [("pyWorkPage.A.pyWorkPage.pyWorkPage", .str "x"), ("pyWorkPage.B", .str "y")]) =
      .ok (.obj [("A", .obj [("pyWorkPage", .str "x")]), ("B", .str "y")]) ∧
    ∃ reference value path, (Table.ofList [("pyWorkPage.A.pyWorkPage.pyWorkPage", Json.str "x"),
        ("pyWorkPage.B", .str "y")]).get? reference = some value ∧
      Addressing.standard.parse reference = .ok path ∧
      path.Spells [.member "A"] "pyWorkPage" := by
  have nested : Addressing.standard.nest
      (.ofList [("pyWorkPage.A.pyWorkPage.pyWorkPage", .str "x"), ("pyWorkPage.B", .str "y")]) =
        .ok (.obj [("A", .obj [("pyWorkPage", .str "x")]), ("B", .str "y")]) := rfl
  refine ⟨nested, root_page_only_where_named Addressing.standard ?_ nested [.member "A"] ?_⟩
  · intro entry mem
    rcases List.mem_cons.1 mem with rfl | mem
    · rfl
    · rw [List.mem_singleton.1 mem]
      rfl
  · exact Option.some_ne_none (Json.str "x")

/-- The marker is kept as the last segment, as the name of a list and as the key of an entry. -/
theorem root_page_kept_as_name :
    Addressing.standard.nest (.ofList [("pyWorkPage", .str "x")]) =
        .ok (.obj [("pyWorkPage", .str "x")]) ∧
      Addressing.standard.nest (.ofList [("pyWorkPage(1).A", .str "x")]) =
        .ok (.obj [("pyWorkPage", .arr [.obj [("A", .str "x")]])]) ∧
      Addressing.standard.nest (.ofList [("G(pyWorkPage).A", .str "x")]) =
        .ok (.obj [("G", .obj [("pyWorkPage", .obj [("A", .str "x")])])]) :=
  ⟨rfl, rfl, rfl⟩

end CaseForm
