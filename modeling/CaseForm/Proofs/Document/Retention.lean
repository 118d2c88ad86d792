import CaseForm.Proofs.Document.Sequence

/-!
What is kept when a document is written.

A write leaves alone what stands beside its address, with one exception. Where a reference goes on
from a row or an entry, whatever stands there is made an object, so an array that stands there is
gone together with all that it held; a page in the same place would be a conflict of shapes. This
is the only way in which anything is lost, by one write or by the many that nest a table.

* `Drawn.get?_eq_some_iff`: which of many writes are still there at the end;
* `kept_iff_not_crosses`: what a write and a nesting keep.
-/

namespace CaseForm

/-! ### The first path into an object -/

/-- Where paths open an object, one of them is the first to do so. -/
theorem exists_first_opens {paths : List Path} {place : Address} (opened : Opened paths place) :
    ∃ before path after, paths = before ++ path :: after ∧ path.Opens place ∧
      ¬ Opened before place := by
  induction paths with
  | nil =>
    obtain ⟨path, mem, -⟩ := opened
    cases mem
  | cons path paths ih =>
    by_cases opens : path.Opens place
    · refine ⟨[], path, paths, rfl, opens, ?_⟩
      rintro ⟨other, mem, -⟩
      cases mem
    · obtain ⟨other, mem, later⟩ := opened
      have rest : Opened paths place := by
        rcases List.mem_cons.1 mem with rfl | mem
        · exact absurd later opens
        · exact ⟨other, mem, later⟩
      obtain ⟨before, first, after, rfl, here, closed⟩ := ih rest
      refine ⟨path :: before, first, after, rfl, here, ?_⟩
      rintro ⟨other, mem, later⟩
      rcases List.mem_cons.1 mem with rfl | mem
      · exact opens later
      · exact closed ⟨other, mem, later⟩

/-- Of paths that can be written one after another, none loses the address of another but by
entering a list around it. -/
theorem lost_iff_crosses {paths : List Path} (free : ¬ Obstructed paths) {path : Path}
    (mem : path ∈ paths) :
    Lost paths path.address ↔ ∃ other ∈ paths, other.Crosses path.address := by
  constructor
  · intro lost
    obtain ⟨place, index, rest, opened, split⟩ := lost_iff.1 lost
    have lists : path.Lists place := ⟨index, rest, split⟩
    obtain ⟨before, first, after, rfl, opens, closed⟩ := exists_first_opens opened
    refine ⟨first, by simp, place, index, rest, ?_, split⟩
    -- The path stands before the first one that opens the place, or it would be blocked.
    have earlier : path ∈ before := by
      rcases List.mem_append.1 mem with earlier | later
      · exact earlier
      refine absurd ?_ free
      rcases List.mem_cons.1 later with rfl | later
      · exact absurd lists opens.not_lists
      · obtain ⟨left, right, rfl⟩ := List.append_of_mem later
        refine ⟨before ++ first :: left, path, right, by simp, place, .inl ⟨lists, ?_⟩⟩
        exact ⟨first, by simp, opens⟩
    refine Classical.byContradiction fun shut => free ⟨before, first, after, rfl, place, .inr ?_⟩
    exact ⟨opens, shut, ⟨path, earlier, lists⟩, closed⟩
  · rintro ⟨other, mem, crosses⟩
    exact ⟨other, mem, crosses.loses⟩

/-! ### What is still there at the end -/

/-- A value that was written is there at the end unless another path leads on from its address, or
enters a list around it. -/
theorem Drawn.get?_eq_some_iff {writes : List (Path × Json)} {document : Json}
    (drawn : Drawn writes document) (free : ¬ Obstructed (writes.map (·.1))) {path : Path}
    {value : Json} (mem : (path, value) ∈ writes) :
    document.get? path.address = some value ↔
      (∀ other ∈ writes.map (·.1), path.address <+: other.address →
        other.address = path.address) ∧
      ∀ other ∈ writes.map (·.1), ¬ other.Crosses path.address := by
  have here : path ∈ writes.map (·.1) := List.mem_map_of_mem mem
  have scalar := drawn.scalar _ mem
  constructor
  · intro there
    have closed : ¬ Opened (writes.map (·.1)) path.address := by
      intro opened
      rw [← Json.isScalar_outline, drawn.outline_of_opened there opened] at scalar
      cases scalar
    have single : ¬ Listed (writes.map (·.1)) path.address := by
      intro listed
      rw [← Json.isScalar_outline, drawn.outline_of_listed there closed listed] at scalar
      cases scalar
    constructor
    · intro other mem leads
      rcases Path.prefix_iff.1 leads with ends | opens | lists
      · exact ends
      · exact absurd ⟨other, mem, opens⟩ closed
      · exact absurd ⟨other, mem, lists⟩ single
    · intro other mem crosses
      exact drawn.not_lost there ((lost_iff_crosses free here).2 ⟨other, mem, crosses⟩)
  · rintro ⟨last, apart⟩
    -- No path goes on from the address, since none that leads to it is longer.
    have stops {other : Path} (mem : other ∈ writes.map (·.1)) {key : Key} {rest : Address}
        (split : other.address = path.address ++ key :: rest) : False := by
      have ends := last other mem (split ▸ List.prefix_append _ _)
      rw [split] at ends
      simp at ends
    refine drawn.held _ mem ?_ ?_ ?_
    · intro lost
      obtain ⟨other, mem, crosses⟩ := (lost_iff_crosses free here).1 lost
      exact apart other mem crosses
    · rintro ⟨other, mem, name, rest, split⟩
      exact stops mem split
    · rintro ⟨other, mem, index, rest, split⟩
      exact stops mem split

/-! ### What is kept -/

/-- A write that succeeds keeps what stands at another address, unless that is an address on its
way or lies in an array that the reference enters. A table of scalars under different addresses
that is nested keeps each value in the same sense. -/
theorem kept_iff_not_crosses (addressing : Addressing) :
    (∀ (reference : String) (value : Json) (members : Entries Json) (new : Json) (path : Path),
      addressing.parse reference = .ok path →
      addressing.write reference value (.obj members) = (new, .ok ()) →
      ∀ (address : Address) (leaf : Json), (Json.obj members).get? address = some leaf →
        ¬ address <+: path.address →
        (new.get? address = some leaf ↔ ¬ path.Crosses address)) ∧
    ∀ (values : Table Json) (document : Json),
      (∀ entry ∈ values.entries, entry.2.isScalar = true) →
      Apart (addressing.writes values.entries) → addressing.nest values = .ok document →
      ∀ (path : Path) (value : Json), (path, value) ∈ addressing.writes values.entries →
        (document.get? path.address = some value ↔
          (∀ other ∈ addressing.paths values.entries, path.address <+: other.address →
            other.address = path.address) ∧
          ∀ other ∈ addressing.paths values.entries, ¬ other.Crosses path.address) := by
  constructor
  · intro reference value members new path read written address leaf there beside
    obtain ⟨other, same, written⟩ := (addressing.write_eq_ok_iff ..).1 written
    rw [read] at same
    cases same
    constructor
    · intro kept crosses
      rw [Path.get?_put_of_loses written crosses.loses] at kept
      cases kept
    · exact Path.get?_put_of_not_crosses written rfl there beside
  · intro values document scalar apart nested path value mem
    obtain ⟨-, written⟩ := Addressing.writeAll_eq_ok_iff.1 nested
    have scalars := addressing.forall_writes (·.isScalar = true) scalar
    have free : ¬ Obstructed (addressing.paths values.entries) := by
      rw [Addressing.paths, ← Document.putAll_eq_none_iff scalars apart, written]
      intro absurd
      cases absurd
    exact (Document.drawn_of_putAll written scalars apart).get?_eq_some_iff free mem

/-- An entry beside the array that is entered stays, and so does a value that is nested beside
another. -/
theorem kept_beside_entered_array :
    (∃ new, Addressing.standard.write "A(B).C" (.str "y")
        (.obj [("A", .obj [("B", .arr [.str "x"]), ("D", .str "z")])]) = (new, .ok ()) ∧
      new.get? [.member "A", .member "D"] = some (.str "z")) ∧
    ∃ document, Addressing.standard.nest
        ⟨[("A(B)", .str "x"), ("A.D", .str "z")], by decide⟩ = .ok document ∧
      document.get? [.member "A", .member "B"] = some (.str "x") := by
  obtain ⟨one, many⟩ := kept_iff_not_crosses Addressing.standard
  constructor
  · have read : Addressing.standard.parse "A(B).C" = .ok ⟨[.groupEntry "A" "B"], .page "C"⟩ := rfl
    have written : Addressing.standard.write "A(B).C" (.str "y")
        (.obj [("A", .obj [("B", .arr [.str "x"]), ("D", .str "z")])]) =
          (.obj [("A", .obj [("B", .obj [("C", .str "y")]), ("D", .str "z")])], .ok ()) := rfl
    refine ⟨_, written, (one _ _ _ _ _ read written _ _ rfl (by decide)).2 ?_⟩
    rintro ⟨place, index, rest, ⟨before, segment, after, eq, -, rfl⟩, split⟩
    obtain ⟨rfl, rfl⟩ : before = [] ∧ segment = .groupEntry "A" "B" := by
      cases before with
      | nil => exact ⟨rfl, (List.cons.inj eq).1.symm⟩
      | cons first before => simp at eq
    simp [Segment.keys] at split
  · have writes : Addressing.standard.writes [("A(B)", .str "x"), ("A.D", .str "z")] =
        [(⟨[], .groupEntry "A" "B"⟩, .str "x"), (⟨[.page "A"], .page "D"⟩, .str "z")] := rfl
    have nested : Addressing.standard.nest ⟨[("A(B)", .str "x"), ("A.D", .str "z")], by decide⟩ =
        .ok (.obj [("A", .obj [("B", .str "x"), ("D", .str "z")])]) := rfl
    have kept := many ⟨[("A(B)", .str "x"), ("A.D", .str "z")], by decide⟩ _
      (by simp [Json.isScalar]) (by rw [writes]; decide) nested ⟨[], .groupEntry "A" "B"⟩
      (.str "x") (by rw [writes]; simp)
    refine ⟨_, nested, kept.2 ?_⟩
    simp only [Addressing.paths, writes, List.map_cons, List.map_nil, List.forall_mem_cons]
    refine ⟨by decide, Path.not_crosses_of_plain (by decide) _,
      Path.not_crosses_of_plain (by decide) _, by simp⟩

/-- An array that is entered is gone with what it holds, beside the address that is written, and so
is a value that was nested in one. -/
theorem entered_array_not_kept :
    (∃ path new, Addressing.standard.parse "A(B).C" = .ok path ∧
      Addressing.standard.write "A(B).C" (.str "y")
        (.obj [("A", .obj [("B", .arr [.str "x"])])]) = (new, .ok ()) ∧
      (Json.obj [("A", .obj [("B", .arr [.str "x"])])]).get?
        [.member "A", .member "B", .item 0] = some (.str "x") ∧
      ¬ [.member "A", .member "B", .item 0] <+: path.address ∧
      new.get? [.member "A", .member "B", .item 0] = none) ∧
    ∃ document, Addressing.standard.nest
        ⟨[("A.B(1)", .str "x"), ("pyWorkPage.A(B).C", .str "y")], by decide⟩ = .ok document ∧
      Apart (Addressing.standard.writes
        [("A.B(1)", .str "x"), ("pyWorkPage.A(B).C", .str "y")]) ∧
      document.get? [.member "A", .member "B", .item 0] = none := by
  have writes : Addressing.standard.writes
      [("A.B(1)", .str "x"), ("pyWorkPage.A(B).C", .str "y")] =
        [(⟨[.page "A"], .listItem "B" 0⟩, .str "x"),
          (⟨[.groupEntry "A" "B"], .page "C"⟩, .str "y")] := rfl
  exact ⟨⟨⟨[.groupEntry "A" "B"], .page "C"⟩, _, rfl, rfl, rfl, by decide, rfl⟩, _, rfl,
    by rw [writes]; decide, rfl⟩

end CaseForm
