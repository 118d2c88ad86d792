import CaseForm.Proofs.Document.Sequence

/-!
When the order of writes matters.

What stands at the places that paths lead to does not depend on the order in which scalars are
written to different addresses. The order decides two things only: whether a list is made before
it is entered, which then succeeds while the other way round is a conflict of shapes, and what the
first path that goes past an item of a list leaves there, a page or nothing.

* `Drawn.eq`: writes draw one document;
* `Drawn.perm`: writes in another order draw the same if they fill lists in the same way;
* `writeAll_perm_iff`: when two orders of entries come to the same.
-/

namespace CaseForm

/-! ### Places do not depend on the order -/

section Places

variable {paths others : List Path} {address : Address}

theorem opened_perm (perm : paths.Perm others) : Opened paths address ↔ Opened others address := by
  simp only [Opened, perm.mem_iff]

theorem listed_perm (perm : paths.Perm others) : Listed paths address ↔ Listed others address := by
  simp only [Listed, perm.mem_iff]

theorem lost_perm (perm : paths.Perm others) : Lost paths address ↔ Lost others address := by
  simp only [Lost, perm.mem_iff]

theorem gap_perm (perm : paths.Perm others) : Gap paths address ↔ Gap others address := by
  simp only [Gap, perm.mem_iff, lost_perm perm]

end Places

/-- Two orders of paths fill the gaps of lists with the same. -/
def FillAlike (paths others : List Path) : Prop :=
  ∀ address, Gap paths address → filling paths address = filling others address

/-- Paths that go into no list fill none. -/
theorem filling_of_pages {paths : List Path}
    (pages : ∀ path ∈ paths, ∀ index, Key.item index ∉ path.address) (address : Address) :
    filling paths address = none := by
  refine List.findSome?_eq_none_iff.2 fun path mem => ?_
  refine Option.eq_none_iff_forall_ne_some.2 fun value fills => ?_
  obtain ⟨list, index, other, rest, split, -⟩ := Address.eq_of_fills fills
  exact pages path mem index (by rw [split]; simp)

namespace Drawn

variable {writes others : List (Path × Json)} {document other : Json}

/-- Writes in another order draw the same document if they fill its lists alike. -/
theorem perm (drawn : Drawn writes document) (perm : writes.Perm others)
    (alike : FillAlike (writes.map (·.1)) (others.map (·.1))) : Drawn others document := by
  have paths := perm.map Prod.fst
  constructor
  case root => exact drawn.root
  case scalar => exact fun write mem => drawn.scalar write (perm.mem_iff.2 mem)
  case lost =>
    intro address lost
    exact drawn.lost address ((lost_perm paths).2 lost)
  case opened =>
    intro address kept opened
    rw [← lost_perm paths] at kept
    exact drawn.opened address kept ((opened_perm paths).2 opened)
  case listed =>
    intro address kept closed listed
    rw [← lost_perm paths] at kept
    rw [← opened_perm paths] at closed
    exact drawn.listed address kept closed ((listed_perm paths).2 listed)
  case held =>
    intro write mem kept closed single
    rw [← lost_perm paths] at kept
    rw [← opened_perm paths] at closed
    rw [← listed_perm paths] at single
    exact drawn.held write (perm.mem_iff.2 mem) kept closed single
  case filled =>
    intro address later gap
    rw [← gap_perm paths] at gap
    rw [drawn.filled address later gap, alike address gap]

/-- Documents that the same writes draw look alike. -/
theorem alike (drawn : Drawn writes document) (also : Drawn writes other) :
    Json.Alike document other := by
  intro address
  by_cases lost : Lost (writes.map (·.1)) address
  · rw [drawn.lost address lost, also.lost address lost]
  rcases place_cases _ address lost with opened | ⟨closed, listed⟩ |
    ⟨closed, single, path, mem, ends⟩ | gap
  · obtain ⟨found, there, object, -⟩ := drawn.opened address lost opened
    obtain ⟨second, here, same, -⟩ := also.opened address lost opened
    rw [there, here, Option.map_some, Option.map_some, object, same]
  · obtain ⟨found, there, array⟩ := drawn.listed address lost closed listed
    obtain ⟨second, here, same⟩ := also.listed address lost closed listed
    rw [there, here, Option.map_some, Option.map_some, array, same]
  · obtain ⟨write, written, rfl⟩ := List.mem_map.1 mem
    subst ends
    rw [drawn.held write written lost closed single, also.held write written lost closed single]
  · by_cases root : address = []
    · subst root
      simp [drawn.root, also.root]
    · rw [drawn.filled address root gap, also.filled address root gap]

/-- The same writes draw one document in key order. -/
theorem eq (drawn : Drawn writes document) (also : Drawn writes other)
    (ordered : document.Ordered) (sorted : other.Ordered) : document = other :=
  Json.ext_get? ordered sorted (drawn.alike also)

end Drawn

namespace Document

variable {writes others : List (Path × Json)}

theorem ordered_of_isScalar {value : Json} (scalar : value.isScalar = true) : value.Ordered := by
  cases value <;> first | exact trivial | cases scalar

/-- Two orders of writes come to the same just where both are obstructed, or none is and lists are
filled alike. -/
theorem putAll_perm_iff (perm : writes.Perm others)
    (scalar : ∀ write ∈ writes, write.2.isScalar = true) (apart : Apart writes) :
    putAll writes (.obj []) = putAll others (.obj []) ↔
      Obstructed (writes.map (·.1)) ∧ Obstructed (others.map (·.1)) ∨
        ¬ Obstructed (writes.map (·.1)) ∧ ¬ Obstructed (others.map (·.1)) ∧
          FillAlike (writes.map (·.1)) (others.map (·.1)) := by
  have scalars : ∀ write ∈ others, write.2.isScalar = true := by
    intro write mem
    exact scalar write (perm.mem_iff.2 mem)
  have separate : Apart others := (perm.pairwise_iff fun ne => ne.symm).1 apart
  rw [← putAll_eq_none_iff scalar apart, ← putAll_eq_none_iff scalars separate]
  cases first : putAll writes (.obj []) with
  | none => cases second : putAll others (.obj []) <;> simp
  | some document =>
    cases second : putAll others (.obj []) with
    | none => simp
    | some other =>
      have drawn := drawn_of_putAll first scalar apart
      have also := drawn_of_putAll second scalars separate
      simp only [Option.some.injEq, reduceCtorEq, false_and, not_false_eq_true, true_and, false_or]
      constructor
      · rintro rfl address gap
        by_cases root : address = []
        · rw [root, filling_nil, filling_nil]
        · rw [← drawn.filled address root gap,
            ← also.filled address root ((gap_perm (perm.map Prod.fst)).1 gap)]
      · intro alike
        refine (drawn.perm perm alike).eq also ?_ ?_
        · exact ordered_putAll first (fun write mem => ordered_of_isScalar (scalar write mem))
            ⟨Entries.sorted_nil, trivial⟩
        · exact ordered_putAll second (fun write mem => ordered_of_isScalar (scalars write mem))
            ⟨Entries.sorted_nil, trivial⟩

end Document

/-! ### By reference -/

namespace Addressing

variable {addressing : Addressing}

/-- What entries that can be read leave behind is what their writes do. -/
theorem toOption_writeAll {entries : List (String × Json)}
    (readable : ∀ entry ∈ entries, addressing.path? entry.1 ≠ none) (document : Json) :
    (addressing.writeAll entries document).toOption =
      Document.putAll (addressing.writes entries) document := by
  apply Option.ext
  intro new
  have written : addressing.writeAll entries document = .ok new ↔ _ := writeAll_eq_ok_iff
  rw [and_iff_right readable] at written
  rw [← written]
  cases addressing.writeAll entries document <;> simp [Except.toOption]

/-- Entries of which one cannot be read are not written. -/
theorem toOption_writeAll_of_unreadable {entries : List (String × Json)} {entry : String × Json}
    (mem : entry ∈ entries) (unreadable : addressing.path? entry.1 = none) (document : Json) :
    (addressing.writeAll entries document).toOption = none := by
  cases written : addressing.writeAll entries document with
  | error e => rfl
  | ok new => exact absurd unreadable ((writeAll_eq_ok_iff.1 written).1 entry mem)

end Addressing

/-- Two orders of scalar entries with different addresses both fail, or leave the same document
behind, just where one entry cannot be read, or both orders are obstructed, or neither is and
their first paths past each gap of a list fill it alike. -/
theorem writeAll_perm_iff (addressing : Addressing) {entries others : List (String × Json)}
    (perm : entries.Perm others) (scalar : ∀ entry ∈ entries, entry.2.isScalar = true)
    (apart : Apart (addressing.writes entries)) :
    (addressing.writeAll entries (.obj [])).toOption =
        (addressing.writeAll others (.obj [])).toOption ↔
      (∃ entry ∈ entries, addressing.path? entry.1 = none) ∨
        Obstructed (addressing.paths entries) ∧ Obstructed (addressing.paths others) ∨
        ¬ Obstructed (addressing.paths entries) ∧ ¬ Obstructed (addressing.paths others) ∧
          FillAlike (addressing.paths entries) (addressing.paths others) := by
  by_cases unreadable : ∃ entry ∈ entries, addressing.path? entry.1 = none
  · obtain ⟨entry, mem, unreadable⟩ := unreadable
    rw [Addressing.toOption_writeAll_of_unreadable mem unreadable,
      Addressing.toOption_writeAll_of_unreadable (perm.mem_iff.1 mem) unreadable]
    exact iff_of_true rfl (.inl ⟨entry, mem, unreadable⟩)
  · have readable : ∀ entry ∈ entries, addressing.path? entry.1 ≠ none :=
      fun entry mem none => unreadable ⟨entry, mem, none⟩
    have scalars := addressing.forall_writes (·.isScalar = true) scalar
    rw [or_iff_right unreadable, Addressing.toOption_writeAll readable,
      Addressing.toOption_writeAll fun entry mem => readable entry (perm.mem_iff.2 mem)]
    exact Document.putAll_perm_iff (perm.filterMap _) scalars apart

/-- A value and a container in its place may be written in either order. -/
theorem writeAll_value_and_container :
    (Addressing.standard.writeAll [("A", .str "x"), ("A.B", .str "y")] (.obj [])).toOption =
      (Addressing.standard.writeAll [("A.B", .str "y"), ("A", .str "x")] (.obj [])).toOption := by
  have writes : Addressing.standard.writes [("A", .str "x"), ("A.B", .str "y")] =
      [(⟨[], .page "A"⟩, .str "x"), (⟨[.page "A"], .page "B"⟩, .str "y")] := rfl
  have swapped : Addressing.standard.writes [("A.B", .str "y"), ("A", .str "x")] =
      [(⟨[.page "A"], .page "B"⟩, .str "y"), (⟨[], .page "A"⟩, .str "x")] := rfl
  have written : Document.putAll [(⟨[], .page "A"⟩, .str "x"), (⟨[.page "A"], .page "B"⟩, .str "y")]
      (.obj []) = some (.obj [("A", .obj [("B", .str "y")])]) := rfl
  have back : Document.putAll [(⟨[.page "A"], .page "B"⟩, .str "y"), (⟨[], .page "A"⟩, .str "x")]
      (.obj []) = some (.obj [("A", .obj [("B", .str "y")])]) := rfl
  refine (writeAll_perm_iff _ (.swap ..) (by simp [Json.isScalar])
    (by rw [writes]; decide)).2 (.inr (.inr ⟨?_, ?_, ?_⟩))
  · rw [Addressing.paths, writes, ← Document.putAll_eq_none_iff (by simp [Json.isScalar])
      (by decide), written]
    intro absurd
    cases absurd
  · rw [Addressing.paths, swapped, ← Document.putAll_eq_none_iff (by simp [Json.isScalar])
      (by decide), back]
    intro absurd
    cases absurd
  · intro address _
    rw [Addressing.paths, Addressing.paths, writes, swapped, filling_of_pages, filling_of_pages] <;>
      simp [Path.address, Path.segments, Segment.keys]

/-- Whether an array can be entered, and what fills a list, depends on the order. -/
theorem writeAll_order_matters :
    Apart (Addressing.standard.writes [("A.B(1)", .str "x"), ("A(B).C", .str "y")]) ∧
      (Addressing.standard.writeAll
          [("A.B(1)", .str "x"), ("A(B).C", .str "y")] (.obj [])).toOption =
        some (.obj [("A", .obj [("B", .obj [("C", .str "y")])])]) ∧
      (Addressing.standard.writeAll
          [("A(B).C", .str "y"), ("A.B(1)", .str "x")] (.obj [])).toOption = none ∧
      Apart (Addressing.standard.writes [("L(3)", .str "x"), ("L(2).N", .str "y")]) ∧
      (Addressing.standard.writeAll [("L(3)", .str "x"), ("L(2).N", .str "y")] (.obj [])).toOption =
        some (.obj [("L", .arr [.null, .obj [("N", .str "y")], .str "x"])]) ∧
      (Addressing.standard.writeAll [("L(2).N", .str "y"), ("L(3)", .str "x")] (.obj [])).toOption =
        some (.obj [("L", .arr [.obj [], .obj [("N", .str "y")], .str "x"])]) := by
  have entered : Addressing.standard.writes [("A.B(1)", .str "x"), ("A(B).C", .str "y")] =
      [(⟨[.page "A"], .listItem "B" 0⟩, .str "x"),
        (⟨[.groupEntry "A" "B"], .page "C"⟩, .str "y")] := rfl
  have filled : Addressing.standard.writes [("L(3)", .str "x"), ("L(2).N", .str "y")] =
      [(⟨[], .listItem "L" 2⟩, .str "x"), (⟨[.listItem "L" 1], .page "N"⟩, .str "y")] := rfl
  exact ⟨by rw [entered]; decide, rfl, rfl, by rw [filled]; decide, rfl, rfl⟩

end CaseForm
