import CaseForm.Proofs.Document.Effect

/-!
Failed operations change nothing.

An operation on a document makes containers while it walks, and it may still fail behind them. What
it has made is empty, though, and nothing fails on an empty container: once it has changed anything,
it succeeds (`Document.Atomic`). The walk through the containers of a reference keeps this property
of what is done at its end (`Document.atomic_walk`), so a write that fails and a repeating structure
that is not found leave the document as it was (`failed_leaves_document`).
-/

namespace CaseForm

namespace Document

/-- A change that fails leaves the members that it was given, and it does not fail where there are
none. -/
structure Atomic {α : Type} (change : Entries Json → Change α) : Prop where
  fresh : ∀ e, (change []).2 ≠ .error e
  kept : ∀ members e, (Json.obj members).Ordered → (change members).2 = .error e →
    (change members).1 = members

theorem ordered_members {value : Json} (ordered : value.Ordered) :
    (Json.obj value.members).Ordered := by
  cases value with
  | obj members => exact ordered
  | _ => exact ⟨Entries.sorted_nil, trivial⟩

variable {members : Entries Json} {name : String}

/-- What is found under a name, other than nothing, is stored under it. -/
theorem get?_of_found {found : Json} (h : (Entries.get? name members).getD .null = found)
    (ne : found ≠ .null) : Entries.get? name members = some found := by
  cases there : Entries.get? name members with
  | none =>
    rw [there, Option.getD_none] at h
    exact absurd h.symm ne
  | some other =>
    rw [there, Option.getD_some] at h
    rw [h]

/-- Storing what is found under a name changes nothing. -/
theorem set_found (ordered : (Json.obj members).Ordered) {found : Json}
    (h : (Entries.get? name members).getD .null = found) (ne : found ≠ .null) :
    Entries.set name found members = members :=
  Entries.set_eq_self ordered.1 (get?_of_found h ne)

theorem ordered_found (ordered : (Json.obj members).Ordered) {found : Json}
    (h : (Entries.get? name members).getD .null = found) : found.Ordered := by
  cases there : Entries.get? name members with
  | none =>
    rw [there, Option.getD_none] at h
    subst h
    exact trivial
  | some other =>
    rw [there, Option.getD_some] at h
    subst h
    have inside : (Json.obj members).child? (.member name) = some other := there
    exact ordered_child? ordered inside

/-- The row that a walk goes on from is an empty page, or the list has it and is not filled up. -/
theorem row_cases (index : Nat) (items : List Json) :
    (padTo (index + 1) (.obj []) items).getD index .null = .obj [] ∨
      ∃ row, items[index]? = some row ∧
        (padTo (index + 1) (.obj []) items).getD index .null = row ∧
          padTo (index + 1) (.obj []) items = items := by
  rw [List.getD_eq_getElem?_getD, getElem?_padTo, if_pos (Nat.lt_succ_self index)]
  cases there : items[index]? with
  | none => exact .inl rfl
  | some row =>
    obtain ⟨inside, -⟩ := List.getElem?_eq_some_iff.1 there
    exact .inr ⟨row, rfl, rfl, padTo_of_le inside _⟩

section Walk

variable {α : Type} {reference : String} {change : Entries Json → Change α} {rest : List Segment}
  (inner : Atomic (walk reference change rest))

include inner

/-- What a walk goes on from where it fails is an object, and the walk leaves its members. -/
theorem Atomic.eq_obj (value : Json) (ordered : value.Ordered) (e : ReferenceError)
    (failed : (walk reference change rest value.members).2 = .error e) :
    value = .obj (walk reference change rest value.members).1 := by
  cases value with
  | obj members => rw [Json.members, inner.kept members e ordered failed]
  | _ => exact absurd failed (inner.fresh e)

theorem atomic_walk_page (name : String) :
    Atomic (walk reference change (.page name :: rest)) := by
  constructor
  case fresh =>
    intro e failed
    exact inner.fresh e failed
  case kept =>
    intro members e ordered failed
    rw [walk] at failed ⊢
    split at failed
    · rfl
    · have same := inner.eq_obj _ (ordered_found ordered rfl) e failed
      simp only
      rw [← same]
      refine set_found ordered rfl ?_
      rw [same]
      intro null
      cases null

theorem atomic_walk_listItem (name : String) (index : Nat) :
    Atomic (walk reference change (.listItem name index :: rest)) := by
  constructor
  case fresh =>
    intro e failed
    have failed : (walk reference change rest
        ((padTo (index + 1) (.obj []) []).getD index .null).members).2 = .error e := failed
    rcases row_cases index [] with blank | ⟨row, there, -⟩
    · rw [blank] at failed
      exact inner.fresh e failed
    · cases there
  case kept =>
    intro members e ordered failed
    rw [walk] at failed ⊢
    split at failed
    · rfl
    · have list : ((Entries.get? name members).getD .null).Ordered := ordered_found ordered rfl
      have stored : (Entries.get? name members).getD .null ≠ .null → _ := set_found ordered rfl
      generalize (Entries.get? name members).getD .null = found at failed list stored ⊢
      simp only at failed ⊢
      rcases row_cases index found.items with blank | ⟨row, there, here, whole⟩
      · rw [blank] at failed
        exact absurd failed (inner.fresh e)
      · rw [here] at failed
        have item : found.child? (.item index) = some row := by
          rw [← there]
          cases found <;> rfl
        rw [here, whole, ← inner.eq_obj row (ordered_child? list item) e failed]
        cases found with
        | arr items =>
          obtain ⟨inside, rfl⟩ := List.getElem?_eq_some_iff.1 (show items[index]? = _ from item)
          simp only [Json.items, List.set_getElem_self]
          exact stored (by simp)
        | _ => cases item

theorem atomic_walk_groupEntry (name key : String) :
    Atomic (walk reference change (.groupEntry name key :: rest)) := by
  constructor
  case fresh =>
    intro e failed
    exact inner.fresh e failed
  case kept =>
    intro members e ordered failed
    rw [walk] at failed ⊢
    split at failed
    · rfl
    · have group : ((Entries.get? name members).getD .null).Ordered := ordered_found ordered rfl
      have stored : (Entries.get? name members).getD .null ≠ .null → _ := set_found ordered rfl
      generalize (Entries.get? name members).getD .null = found at failed group stored ⊢
      simp only at failed ⊢
      have entries := ordered_members group
      have entry : ((Entries.get? key found.members).getD .null).Ordered :=
        ordered_found entries rfl
      have same := inner.eq_obj _ entry e failed
      have there : (Entries.get? key found.members).getD .null ≠ .null := by
        intro null
        rw [null] at same
        cases same
      rw [← same, set_found entries rfl there]
      cases found with
      | obj entries => exact stored (by simp)
      | _ => cases same

end Walk

/-- A walk that is atomic at its end is atomic. -/
theorem atomic_walk {α : Type} (reference : String) {change : Entries Json → Change α}
    (atomic : Atomic change) (containers : List Segment) :
    Atomic (walk reference change containers) := by
  induction containers with
  | nil => exact atomic
  | cons segment rest ih =>
    cases segment with
    | page name => exact atomic_walk_page ih name
    | listItem name index => exact atomic_walk_listItem ih name index
    | groupEntry name key => exact atomic_walk_groupEntry ih name key

/-! ### What is done at the end of a walk -/

theorem atomic_assign (reference : String) (leaf : Segment) (value : Json) :
    Atomic (assign reference leaf value) := by
  constructor
  case fresh =>
    intro e failed
    cases leaf <;> cases failed
  case kept =>
    intro members e _ failed
    cases leaf with
    | page name => cases failed
    | listItem name index =>
      rw [assign] at failed ⊢
      split at failed
      · rfl
      · cases failed
    | groupEntry name key =>
      rw [assign] at failed ⊢
      split at failed
      · rfl
      · cases failed

theorem atomic_editRepeated {α : Type} (reference name : String) (kind : RepeatKind)
    (edit : Repeated → Repeated × α) : Atomic (editRepeated reference name kind edit) := by
  constructor
  case fresh =>
    intro e failed
    cases kind <;> cases failed
  case kept =>
    intro members e _ failed
    unfold editRepeated at failed ⊢
    generalize (Entries.get? name members).getD .null = found at failed ⊢
    cases kind <;> cases found <;> first | rfl | cases failed

/-- A change of a document that is atomic on the members of its root leaves it where it fails. -/
theorem Atomic.eq_of_error {α : Type} {change : Entries Json → Change α} (atomic : Atomic change)
    {document : Json} (ordered : document.Ordered) {e : ReferenceError}
    (failed : (change document.members).2 = .error e) :
    Json.obj (change document.members).1 = document := by
  cases document with
  | obj members => rw [Json.members, atomic.kept members e ordered failed]
  | _ => exact absurd failed (atomic.fresh e)

end Document

namespace Addressing

variable {addressing : Addressing} {reference : String} {document next : Json} {e : ReferenceError}

theorem write_eq_error {value : Json} (ordered : document.Ordered)
    (failed : addressing.write reference value document = (next, .error e)) : next = document := by
  unfold write at failed
  split at failed
  · cases failed
    rfl
  · next path _ =>
    have atomic := Document.atomic_walk reference
      (Document.atomic_assign reference path.leaf value) path.containers
    obtain ⟨left, result⟩ := Prod.mk.inj failed
    rw [← left]
    exact atomic.eq_of_error ordered result

theorem edit_eq_error {α : Type} {kind : RepeatKind} {change : Repeated → Repeated × α}
    (ordered : document.Ordered)
    (failed : addressing.edit reference kind change document = (next, .error e)) :
    next = document := by
  unfold edit at failed
  split at failed
  · cases failed
    rfl
  · next containers name _ =>
    have atomic := Document.atomic_walk reference
      (Document.atomic_editRepeated reference name kind change) containers
    obtain ⟨left, result⟩ := Prod.mk.inj failed
    rw [← left]
    exact atomic.eq_of_error ordered result
  · cases failed
    rfl

end Addressing

/-- A write that fails and a search for a repeating structure that fails leave the document as it
was. Its members stand in key order, as those of every document do that is read or written. -/
theorem failed_leaves_document (addressing : Addressing) {document : Json}
    (ordered : document.Ordered) (reference : String) :
    (∀ (value next : Json) (e : ReferenceError),
      addressing.write reference value document = (next, .error e) → next = document) ∧
    ∀ (kind : RepeatKind) (next : Json) (e : ReferenceError),
      addressing.locate reference kind document = (next, .error e) → next = document :=
  ⟨fun _ _ _ failed => Addressing.write_eq_error ordered failed,
    fun _ _ _ failed => Addressing.edit_eq_error ordered failed⟩

/-- Conflicts of shapes behind a page leave the document as it was. -/
theorem conflict_leaves_document :
    (∃ e, Addressing.standard.write "A.B.C" (.str "y")
        (.obj [("A", .obj [("B", .arr [.str "x"])])]) =
      (.obj [("A", .obj [("B", .arr [.str "x"])])], .error e)) ∧
    ∃ e, Addressing.standard.locate "A.B" .group (.obj [("A", .obj [("B", .arr [.str "x"])])]) =
      (.obj [("A", .obj [("B", .arr [.str "x"])])], .error e) := by
  have ordered : (Json.obj [("A", .obj [("B", .arr [.str "x"])])]).Ordered := by
    simp [Json.Ordered, Json.OrderedMembers, Json.OrderedItems, Entries.Sorted]
  have written := failed_leaves_document .standard ordered "A.B.C"
  have located := failed_leaves_document .standard ordered "A.B"
  exact ⟨⟨_, Prod.ext (written.1 (.str "y") _ _ rfl) rfl⟩,
    ⟨_, Prod.ext (located.2 .group _ _ rfl) rfl⟩⟩

end CaseForm
