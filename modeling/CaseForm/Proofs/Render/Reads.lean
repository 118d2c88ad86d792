import CaseForm.Proofs.Render.Drawn

/-!
What a rendering reads of the edited values.

A field reads the value under its own reference, and the values that its property expressions refer
to: the label of its control, and of its first mode the placeholder, the data of a link and the
property of an icon (`Field.reads`). Views, layouts and grids read nothing on their own, so that is
all that a rendering depends on.

* `Renderer.field_congr`: a field looks alike in two contexts that agree on what it reads;
* `Renderer.group_congr`: a group looks alike in two contexts where all the fields in it do;
* `rendering_reads_only_named`: what this says of a change to one value.
-/

namespace CaseForm

/-! ### What a field reads -/

/-- The reference that a property expression refers to, if it is a relative one. -/
def relativeReference? : Json → Option String
  | .str text => if text.toList.head? = some '.' then some (expandRelative text) else none
  | _ => none

namespace Field

/-- The property expressions that a field is rendered by: the label of its control, and three of its
first mode. -/
def expressions (field : Field) : List Json :=
  field.control.label :: match field.mode? with
    | some mode => [mode.placeholder, mode.linkData, mode.iconProperty]
    | none => []

/-- The references that a field names: its own, and those that its property expressions refer to. -/
def reads (field : Field) : List String :=
  field.reference :: field.expressions.filterMap relativeReference?

/-- Two tables answer alike under every reference that the field names. -/
def Agree (field : Field) (values others : Table Json) : Prop :=
  ∀ key ∈ field.reads, values.get? key = others.get? key

end Field

section Values

variable {values others : Table Json}

/-- A property expression stands for the same where it refers to nothing, or to the same value. -/
theorem resolveText_congr {property : Json}
    (same : ∀ key ∈ relativeReference? property, values.get? key = others.get? key) :
    resolveText values property = resolveText others property := by
  unfold resolveText resolveProperty
  cases property with
  | str text =>
    dsimp only
    split
    · rfl
    · next rest dotted =>
      have named : expandRelative text ∈ relativeReference? (.str text) := by
        simp [relativeReference?, dotted]
      rw [same _ named]
    · rfl
  | _ => rfl

namespace Field.Agree

variable {field : Field} (agree : field.Agree values others)

include agree

theorem current_eq : field.current values = field.current others := by
  unfold Field.current
  rw [agree field.reference List.mem_cons_self]

theorem resolveText_eq {property : Json} (mem : property ∈ field.expressions) :
    resolveText values property = resolveText others property := by
  apply resolveText_congr
  intro key named
  apply agree key
  exact List.mem_cons_of_mem _ (List.mem_filterMap.2 ⟨property, mem, named⟩)

theorem label_eq :
    resolveText values field.control.label = resolveText others field.control.label :=
  agree.resolveText_eq List.mem_cons_self

theorem dropdownPlaceholder_eq (label : Option String) :
    dropdownPlaceholder field label values = dropdownPlaceholder field label others := by
  unfold dropdownPlaceholder
  cases first : field.mode? with
  | none => rfl
  | some mode =>
    have placeholder : mode.placeholder ∈ field.expressions := by simp [expressions, first]
    simp only [agree.resolveText_eq placeholder]

theorem linkData_eq {mode : Mode} (first : field.mode? = some mode) :
    resolveText values mode.linkData = resolveText others mode.linkData :=
  agree.resolveText_eq (by simp [expressions, first])

theorem glyph_eq {mode : Mode} (first : field.mode? = some mode) (icons : Table String) :
    mode.glyph icons values = mode.glyph icons others := by
  have property : mode.iconProperty ∈ field.expressions := by simp [expressions, first]
  simp only [Mode.glyph, agree.resolveText_eq property]

end Field.Agree

end Values

namespace Renderer

variable {renderer : Renderer} {field : Field} {context other : RenderContext}

/-- The widget of a field is the same where the field reads the same at the same moment. -/
theorem widget_congr (agree : field.Agree context.values other.values)
    (now : context.now = other.now) (label : Option String) :
    renderer.widget field context label = renderer.widget field other label := by
  simp only [widget, agree.current_eq, now]
  cases kind : field.control.kind with
  | dropdown => simp only [agree.dropdownPlaceholder_eq label]
  | button => simp only [agree.label_eq]
  | link =>
    cases first : field.mode? with
    | none => simp only [agree.label_eq]
    | some mode => simp only [agree.label_eq, agree.linkData_eq first]
  | icon =>
    cases first : field.mode? with
    | none => rfl
    | some mode => simp only [agree.glyph_eq first]
  | _ => rfl

/-- A field looks alike in two contexts with the same messages and the same moment that agree on
what it reads. -/
theorem field_congr (agree : field.Agree context.values other.values)
    (errors : context.errors = other.errors) (now : context.now = other.now) (showLabel : Bool) :
    renderer.field field context showLabel = renderer.field field other showLabel := by
  simp only [Renderer.field, widget_congr agree now, agree.current_eq, errors]

end Renderer

/-! ### The fields of a view -/

mutual

/-- The fields that stand anywhere in a group, whether they are shown or not. -/
def Group.leaves : Group → List Field
  | .view ⟨_, _, groups, _⟩ => Group.leavesAll groups
  | .layout ⟨_, _, _, groups, rows, view, _, _, header⟩ =>
    (match header with
      | none => []
      | some ⟨cells⟩ => Group.leavesAll cells) ++
    (match rows with
      | none => []
      | some rows => Row.leavesAll rows) ++
    (match groups with
      | none => []
      | some groups => Group.leavesAll groups) ++
    (match view with
      | none => []
      | some ⟨_, _, groups, _⟩ => Group.leavesAll groups)
  | .field leaf => [leaf]
  | .paragraph _ | .caption _ | .unsupported => []

/-- The fields that stand anywhere in groups. -/
def Group.leavesAll : List Group → List Field
  | [] => []
  | group :: groups => group.leaves ++ Group.leavesAll groups

/-- The fields that stand anywhere in rows. -/
def Row.leavesAll : List Row → List Field
  | [] => []
  | ⟨groups⟩ :: rows => Group.leavesAll groups ++ Row.leavesAll rows

end

/-- The fields that stand anywhere in a view. -/
def View.leaves (view : View) : List Field := Group.leavesAll view.groups

/-- The fields of a layout are those of its header, its rows, its groups and its nested view. -/
theorem Group.forall_leaves_layout_iff {layout : Layout} {holds : Field → Prop} :
    (∀ field ∈ (Group.layout layout).leaves, holds field) ↔
      (∀ row ∈ layout.header, ∀ field ∈ Group.leavesAll row.groups, holds field) ∧
      (∀ rows ∈ layout.rows, ∀ field ∈ Row.leavesAll rows, holds field) ∧
      (∀ groups ∈ layout.groups, ∀ field ∈ Group.leavesAll groups, holds field) ∧
      ∀ view ∈ layout.view, ∀ field ∈ view.leaves, holds field := by
  obtain ⟨title, visible, format, groups, rows, view, reference, repeatKind, header⟩ := layout
  unfold Group.leaves
  simp only [List.forall_mem_append, and_assoc]
  refine and_congr ?_ (and_congr ?_ (and_congr ?_ ?_))
  · match header with
    | none => simp
    | some ⟨cells⟩ => simp
  · cases rows <;> simp
  · cases groups <;> simp
  · match view with
    | none => simp
    | some ⟨name, shows, inner, pageId⟩ => simp [View.leaves]

namespace Renderer

/-- A field looks alike in two contexts, with its label and without. -/
def Alike (renderer : Renderer) (context other : RenderContext) (field : Field) : Prop :=
  ∀ showLabel, renderer.field field context showLabel = renderer.field field other showLabel

variable {renderer : Renderer} {context other : RenderContext}

mutual

/-- A group looks alike in two contexts if all the fields in it do. -/
theorem group_congr (loading : context.loading = other.loading) (showLabel : Bool) :
    ∀ {group : Group}, (∀ field ∈ group.leaves, renderer.Alike context other field) →
      renderer.group context showLabel group = renderer.group other showLabel group
  | .view ⟨name, visible, groups, pageId⟩, alike => by
    simp only [Renderer.group, groups_congr loading alike]
  | .layout ⟨title, visible, format, groups, rows, view, reference, repeatKind, header⟩,
      alike => by
    obtain ⟨headed, lined, grouped, viewed⟩ := Group.forall_leaves_layout_iff.1 alike
    unfold Renderer.group
    -- Each format takes other parts of the layout.
    cases format with
    | grid =>
      simp only [loading]
      cases header with
      | none =>
        cases rows with
        | none => rfl
        | some rows => simp only [gridRows_congr loading _ (lined rows rfl)]
      | some row =>
        obtain ⟨cells⟩ := row
        simp only [cells_congr loading true (headed ⟨cells⟩ rfl)]
        cases rows with
        | none => rfl
        | some rows => simp only [gridRows_congr loading _ (lined rows rfl)]
    | dynamic =>
      cases rows with
      | some rows => simp only [flatRows_congr loading (lined rows rfl)]
      | none =>
        cases groups with
        | none => rfl
        | some groups => simp only [groups_congr loading (grouped groups rfl)]
    | unrecognized tag =>
      cases groups with
      | some groups => simp only [groups_congr loading (grouped groups rfl)]
      | none =>
        cases view with
        | none => rfl
        | some view =>
          obtain ⟨name, shows, inner, pageId⟩ := view
          simp only [groups_congr loading (viewed ⟨name, shows, inner, pageId⟩ rfl)]
    | _ =>
      cases groups with
      | none => rfl
      | some groups => simp only [groups_congr loading (grouped groups rfl)]
  | .field leaf, alike => alike leaf List.mem_cons_self showLabel
  | .paragraph _, _ | .caption _, _ | .unsupported, _ => rfl

theorem groups_congr (loading : context.loading = other.loading) :
    ∀ {groups : List Group},
      (∀ field ∈ Group.leavesAll groups, renderer.Alike context other field) →
        renderer.groups context groups = renderer.groups other groups
  | [], _ => rfl
  | group :: groups, alike => by
    obtain ⟨here, there⟩ := List.forall_mem_append.1 alike
    rw [Renderer.groups, Renderer.groups, group_congr loading true here, groups_congr loading there]

theorem cells_congr (loading : context.loading = other.loading) (showLabel : Bool) :
    ∀ {groups : List Group},
      (∀ field ∈ Group.leavesAll groups, renderer.Alike context other field) →
        renderer.cells context showLabel groups = renderer.cells other showLabel groups
  | [], _ => rfl
  | group :: groups, alike => by
    obtain ⟨here, there⟩ := List.forall_mem_append.1 alike
    rw [Renderer.cells, Renderer.cells, group_congr loading showLabel here,
      cells_congr loading showLabel there]

theorem gridRows_congr (loading : context.loading = other.loading) (keyed : Bool) :
    ∀ {rows : List Row}, (∀ field ∈ Row.leavesAll rows, renderer.Alike context other field) →
      renderer.gridRows context keyed rows = renderer.gridRows other keyed rows
  | [], _ => rfl
  | ⟨groups⟩ :: rows, alike => by
    obtain ⟨here, there⟩ := List.forall_mem_append.1 alike
    rw [Renderer.gridRows, Renderer.gridRows, cells_congr loading false here,
      gridRows_congr loading keyed there]

theorem flatRows_congr (loading : context.loading = other.loading) :
    ∀ {rows : List Row}, (∀ field ∈ Row.leavesAll rows, renderer.Alike context other field) →
      renderer.flatRows context rows = renderer.flatRows other rows
  | [], _ => rfl
  | ⟨groups⟩ :: rows, alike => by
    obtain ⟨here, there⟩ := List.forall_mem_append.1 alike
    rw [Renderer.flatRows, Renderer.flatRows, groups_congr loading here,
      flatRows_congr loading there]

end

/-- A view looks alike in two contexts if all the fields in it do. -/
theorem view_congr (loading : context.loading = other.loading) {view : View}
    (alike : ∀ field ∈ view.leaves, renderer.Alike context other field) :
    renderer.view view context = renderer.view view other := by
  rw [Renderer.view, Renderer.view, groups_congr loading alike]

end Renderer

/-! ### A change to one value -/

/-- Two states of a form that differ in nothing that shows, but perhaps in the value under one
reference. -/
structure RenderContext.DiffersAt (reference : String) (context other : RenderContext) : Prop where
  values : ∀ key, key ≠ reference → context.values.get? key = other.values.get? key
  errors : context.errors = other.errors
  loading : context.loading = other.loading
  now : context.now = other.now

/-- A rendering depends only on what the view names. Let two states of a form differ in the value
under one reference at most. If no field of the view, shown or not, is bound to that reference, and
none has a control label, or a placeholder, link data or icon property in its first mode, that
refers to it, then the view looks the same in both; and where a date cannot be written, it cannot be
in either. -/
theorem rendering_reads_only_named {renderer : Renderer} {view : View} {reference : String}
    {context other : RenderContext} (differ : context.DiffersAt reference other)
    (unnamed : ∀ field ∈ view.leaves, reference ∉ field.reads) :
    renderer.view view context = renderer.view view other := by
  apply Renderer.view_congr differ.loading
  intro field mem showLabel
  apply Renderer.field_congr _ differ.errors differ.now
  intro key named
  apply differ.values
  rintro rfl
  exact unnamed field mem named

/-- A grid of one row under a header with a link, which leads to wherever an edited value says. -/
def linkedGrid : View :=
  let mode : Mode := { Mode.record.blank with linkData := .str ".Target" }
  let link : Field := { Field.record.blank with control := ⟨.link, .str "Details", [mode], []⟩ }
  sampleView .grid [] (some [⟨[sampleField "L(1).A" "x"]⟩]) (some ⟨[.field link]⟩)

/-- A value that is neither shown in the row nor the target of the link does not show. -/
theorem linked_grid_ignores_note :
    let context := sampleContext linkedGrid
    let other := { context with values := context.values.insert "Note" (.str "y") }
    context.DiffersAt "Note" other ∧ (∀ field ∈ linkedGrid.leaves, "Note" ∉ field.reads) ∧
      (Renderer.ofSettings {}).view linkedGrid context =
        (Renderer.ofSettings {}).view linkedGrid other := by
  intro context other
  have differ : context.DiffersAt "Note" other := by
    refine ⟨?_, rfl, rfl, rfl⟩
    intro key ne
    rw [Table.get?_insert, if_neg ne]
  have unnamed : ∀ field ∈ linkedGrid.leaves, "Note" ∉ field.reads := by decide
  exact ⟨differ, unnamed, rendering_reads_only_named differ unnamed⟩

end CaseForm
