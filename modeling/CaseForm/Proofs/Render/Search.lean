import CaseForm.Proofs.Render.Drawn
import Mathlib.Data.List.Basic

/-!
Looking for a field in a render tree.

A tree is gone through in two ways: one collects all of its fields, the other stops at the first
with a reference. Both are said of an element and of what is directly inside it (`fields_eq`,
`findField?_eq`), so they are compared by induction on the children of an element
(`induction_on_children`), and the kinds of elements matter no more.

* `findField?_eq_find?`: the search of a tree is the search of its fields;
* `first_field_found`: it answers the first field with the reference, and nothing just if there is
  no such field;
* `Renderer.found_iff_drawn`: what is found in a rendered view is what is drawn of it.
-/

namespace CaseForm

namespace Node

/-- The field that an element is. -/
def leaf? : Node → Option FieldNode
  | .field leaf => some leaf
  | .view .. | .layout .. | .grid _ | .paragraph _ | .caption _ | .annotated .. => none

/-! ### All fields, by the children -/

theorem fieldsOf_eq_flatMap (nodes : List Node) : fieldsOf nodes = nodes.flatMap fields := by
  induction nodes with
  | nil => rfl
  | cons node nodes ih => rw [fieldsOf, ih, List.flatMap_cons]

theorem cellFields_eq_flatMap (cells : List (Option Node)) :
    cellFields cells = (cells.filterMap id).flatMap fields := by
  induction cells with
  | nil => rfl
  | cons cell cells ih =>
    cases cell with
    | none => exact ih
    | some node => exact congrArg (node.fields ++ ·) ih

theorem rowFields_eq_flatMap (rows : List GridRow) :
    rowFields rows = (rows.flatMap fun row => row.cells.filterMap id).flatMap fields := by
  induction rows with
  | nil => rfl
  | cons row rows ih =>
    obtain ⟨key, cells⟩ := row
    rw [rowFields, ih, cellFields_eq_flatMap, List.flatMap_cons, List.flatMap_append]

/-- The fields of a tree are the element itself, if it is one, and then those of its children. -/
theorem fields_eq (node : Node) :
    node.fields = node.leaf?.toList ++ node.children.flatMap fields := by
  cases node with
  | view name divided children => exact fieldsOf_eq_flatMap children
  | layout title arrangement children => exact fieldsOf_eq_flatMap children
  | grid grid =>
    obtain ⟨title, binding, header, rows, footerSpan, loading⟩ := grid
    rw [fields, cellFields_eq_flatMap, rowFields_eq_flatMap, ← List.flatMap_append]
    rfl
  | paragraph html => rfl
  | caption text => rfl
  | field leaf => rfl
  | annotated message child => exact (List.append_nil child.fields).symm

/-! ### The first field, by the children -/

section Search

variable {reference : String}

theorem findFieldIn?_eq_findSome? (nodes : List Node) :
    findFieldIn? reference nodes = nodes.findSome? (findField? reference) := by
  induction nodes with
  | nil => rfl
  | cons node nodes ih =>
    rw [findFieldIn?, ih, List.findSome?_cons]
    cases node.findField? reference <;> rfl

theorem findFieldInCells?_eq_findSome? (cells : List (Option Node)) :
    findFieldInCells? reference cells = (cells.filterMap id).findSome? (findField? reference) := by
  induction cells with
  | nil => rfl
  | cons cell cells ih =>
    cases cell with
    | none => exact ih
    | some node =>
      rw [findFieldInCells?, ih, List.filterMap_cons, id, List.findSome?_cons]
      cases node.findField? reference <;> rfl

theorem findFieldInRows?_eq_findSome? (rows : List GridRow) :
    findFieldInRows? reference rows =
      (rows.flatMap fun row => row.cells.filterMap id).findSome? (findField? reference) := by
  induction rows with
  | nil => rfl
  | cons row rows ih =>
    obtain ⟨key, cells⟩ := row
    rw [findFieldInRows?, ih, findFieldInCells?_eq_findSome?, List.flatMap_cons,
      List.findSome?_append]
    cases (cells.filterMap id).findSome? (findField? reference) <;> rfl

/-- The first field of a tree is the element itself, if it is one with the reference, or else the
first that is found in a child. -/
theorem findField?_eq (node : Node) :
    node.findField? reference =
      (node.leaf?.filter (·.reference = reference)).or
        (node.children.findSome? (findField? reference)) := by
  cases node with
  | view name divided children => exact findFieldIn?_eq_findSome? children
  | layout title arrangement children => exact findFieldIn?_eq_findSome? children
  | grid grid =>
    obtain ⟨title, binding, header, rows, footerSpan, loading⟩ := grid
    rw [findField?, findFieldInCells?_eq_findSome?, findFieldInRows?_eq_findSome?, leaf?, children,
      Option.filter_none, Option.none_or, List.findSome?_append]
    cases (header.filterMap id).findSome? (findField? reference) <;> rfl
  | paragraph html => rfl
  | caption text => rfl
  | field leaf => simp [findField?, leaf?, children, Option.filter_some]
  | annotated message child => simp [findField?, leaf?, children]

end Search

/-! ### Induction on the children -/

theorem sizeOf_lt_of_mem_cells {node : Node} {cells : List (Option Node)}
    (mem : node ∈ cells.filterMap id) : sizeOf node < sizeOf cells := by
  obtain ⟨cell, inside, shown⟩ := List.mem_filterMap.1 mem
  cases shown
  have smaller := List.sizeOf_lt_of_mem inside
  rw [Option.some.sizeOf_spec] at smaller
  omega

theorem sizeOf_lt_of_mem_rows {node : Node} {rows : List GridRow}
    (mem : node ∈ rows.flatMap fun row => row.cells.filterMap id) :
    sizeOf node < sizeOf rows := by
  obtain ⟨⟨key, cells⟩, inside, mem⟩ := List.mem_flatMap.1 mem
  have smaller := List.sizeOf_lt_of_mem inside
  rw [GridRow.mk.sizeOf_spec] at smaller
  have : sizeOf node < sizeOf cells := sizeOf_lt_of_mem_cells mem
  omega

/-- A child is smaller than its element, however it is nested there. -/
theorem sizeOf_lt_of_mem_children {node child : Node} (mem : child ∈ node.children) :
    sizeOf child < sizeOf node := by
  cases node with
  | view name divided children =>
    have : sizeOf child < sizeOf children := List.sizeOf_lt_of_mem mem
    rw [view.sizeOf_spec]
    omega
  | layout title arrangement children =>
    have : sizeOf child < sizeOf children := List.sizeOf_lt_of_mem mem
    rw [layout.sizeOf_spec]
    omega
  | grid grid =>
    obtain ⟨title, binding, header, rows, footerSpan, loading⟩ := grid
    rw [grid.sizeOf_spec, Grid.mk.sizeOf_spec]
    rcases List.mem_append.1 mem with above | below
    · have := sizeOf_lt_of_mem_cells above
      omega
    · have := sizeOf_lt_of_mem_rows below
      omega
  | paragraph html => cases mem
  | caption text => cases mem
  | field leaf => cases mem
  | annotated message child =>
    cases List.mem_singleton.1 mem
    rw [annotated.sizeOf_spec]
    omega

/-- What holds of an element whenever it holds of its children holds of every tree. -/
@[elab_as_elim]
theorem induction_on_children {motive : Node → Prop} (node : Node)
    (step : ∀ node, (∀ child ∈ node.children, motive child) → motive node) : motive node :=
  step node fun child _ => induction_on_children child step
termination_by sizeOf node
decreasing_by exact sizeOf_lt_of_mem_children ‹_›

/-! ### The two searches agree -/

/-- To search a tree is to search its fields. -/
theorem findField?_eq_find? (node : Node) (reference : String) :
    node.findField? reference = node.fields.find? (·.reference = reference) := by
  induction node using induction_on_children with
  | step node inside =>
    have own : node.leaf?.filter (·.reference = reference) =
        node.leaf?.toList.find? (·.reference = reference) := by
      cases node.leaf? with
      | none => rfl
      | some leaf => rw [Option.filter_some, Option.toList, List.find?_singleton]
    have below : node.children.findSome? (findField? reference) =
        node.children.findSome? fun child => child.fields.find? (·.reference = reference) := by
      -- What answers first among the children is the head of all their answers.
      rw [← List.head?_filterMap, List.filterMap_congr inside, List.head?_filterMap]
    rw [findField?_eq, own, below, fields_eq, List.find?_append, List.find?_flatMap]

/-- The search of a tree finds its first field with a reference, whatever the nesting. The fields of
a tree are the element itself, if it is one, and then those of its children in their order. A field
is found just if it has the reference and none of the fields before it has. Nothing is found just if
no field has it. -/
theorem first_field_found (node : Node) (reference : String) :
    node.fields = node.leaf?.toList ++ node.children.flatMap fields ∧
    (∀ leaf, node.findField? reference = some leaf ↔
      ∃ before after, node.fields = before ++ leaf :: after ∧ leaf.reference = reference ∧
        ∀ other ∈ before, other.reference ≠ reference) ∧
    (node.findField? reference = none ↔ ∀ leaf ∈ node.fields, leaf.reference ≠ reference) := by
  refine ⟨fields_eq node, ?_, ?_⟩
  · intro leaf
    rw [findField?_eq_find?, List.find?_eq_some_iff_append]
    simp only [decide_eq_true_eq, Bool.not_eq_true', decide_eq_false_iff_not]
    constructor
    · rintro ⟨found, before, after, split, others⟩
      exact ⟨before, after, split, found, others⟩
    · rintro ⟨before, after, split, found, others⟩
      exact ⟨found, before, after, split, others⟩
  · rw [findField?_eq_find?, List.find?_eq_none]
    simp only [decide_eq_true_eq, ne_eq]

/-- A field of the header of a grid is found before one of a row, with an empty cell in front of it
and a message on it. -/
example :
    let above : FieldNode := { (default : FieldNode) with reference := "Total", name := "above" }
    let below : FieldNode := { (default : FieldNode) with reference := "Total", name := "below" }
    let header := [none, some (.annotated "Required" (.field above))]
    (Node.grid ⟨none, none, header, [⟨none, [some (.field below)]⟩], 2, false⟩).findField? "Total" =
      some above := rfl

end Node

/-! ### Searching a rendered view -/

namespace Renderer

variable {renderer : Renderer} {view : View} {context : RenderContext} {tree : Node}

/-- The fields of a rendered view are those that are drawn of it. -/
theorem references_view (rendered : renderer.view view context = .ok (some tree)) :
    FieldNode.references tree.fields = drawnReferences view.drawn := by
  unfold Renderer.view at rendered
  unfold View.drawn
  cases contributes : view.contributes with
  | false =>
    rw [contributes] at rendered
    cases rendered
  | true =>
    rw [contributes] at rendered
    obtain ⟨children, ran, made⟩ := except_bind_eq_ok_iff.1 rendered
    cases made
    exact references_groups renderer context true ran

/-- A field is found in a rendered view just if one with its reference is drawn of the view: it is
visible, its control is not a hidden one, and all that it stands in is shown. -/
theorem found_iff_drawn (rendered : renderer.view view context = .ok (some tree))
    (reference : String) :
    (∃ leaf, tree.findField? reference = some leaf) ↔ reference ∈ drawnReferences view.drawn := by
  rw [← Option.isSome_iff_exists, Node.findField?_eq_find?, List.find?_isSome,
    ← references_view rendered, FieldNode.references, List.mem_map]
  simp only [decide_eq_true_eq]

end Renderer

end CaseForm
