import CaseForm.Layout.Seed
import CaseForm.Render.View

/-!
What is drawn of a view, and what of that the seeding overlooks.

Rendering and seeding go through a view in different ways. Rendering goes by the format of a layout:
a grid has a header and rows, other formats have rows, groups or a nested view. Seeding does not
look at formats: it takes the rows of a layout where it has rows, else its nested view, else its
groups, and never a header. So a field may be drawn where the seeding does not come by
(`Group.drawn`), and a form then shows it without the value that the server sent.

* `Renderer.references_group`: the fields of a tree are the fields that are drawn;
* `Group.echo_mem_of_drawn`: a field that is drawn where the seeding comes by is seeded;
* `seeded_unless_overlooked`: what this says of a view.
-/

namespace CaseForm

/-- Whether a field is drawn: it is visible, and its control is not a hidden one. -/
def Field.isDrawn (field : Field) : Bool := field.visible && field.control.kind != .hidden

mutual

/-- The fields that are drawn of a group, in document order, each with whether the seeding comes by;
`reached` says whether it comes to the group. -/
def Group.drawn (reached : Bool) : Group → List (Field × Bool)
  | .view ⟨_, visible, groups, _⟩ => if visible then Group.drawnAll reached groups else []
  | .layout ⟨_, visible, format, groups, rows, view, _, _, header⟩ =>
    if !visible then []
    else match format with
      | .grid =>
        (match header with
          | none => []
          | some ⟨groups⟩ => Group.drawnAll false groups) ++
        (match rows with
          | none => []
          | some rows => Row.drawnAll reached rows)
      | .dynamic =>
        match rows with
        | some rows => Row.drawnAll reached rows
        | none =>
          match groups with
          | some groups => Group.drawnAll (reached && view.isNone) groups
          | none => []
      | .unrecognized _ =>
        match groups with
        | some groups => Group.drawnAll (reached && rows.isNone && view.isNone) groups
        | none =>
          match view with
          | none => []
          | some ⟨_, visible, groups, pageId⟩ =>
            if visible || pageId.isSome then Group.drawnAll (reached && rows.isNone) groups else []
      | _ =>
        match groups with
        | some groups => Group.drawnAll (reached && rows.isNone && view.isNone) groups
        | none => []
  | .field leaf => if leaf.isDrawn then [(leaf, reached)] else []
  | .paragraph _ | .caption _ | .unsupported => []

/-- The fields that are drawn of groups. -/
def Group.drawnAll (reached : Bool) : List Group → List (Field × Bool)
  | [] => []
  | group :: groups => group.drawn reached ++ Group.drawnAll reached groups

/-- The fields that are drawn of rows. -/
def Row.drawnAll (reached : Bool) : List Row → List (Field × Bool)
  | [] => []
  | ⟨groups⟩ :: rows => Group.drawnAll reached groups ++ Row.drawnAll reached rows

end

/-- The fields that are drawn of a view at the top, each with whether the seeding comes by. -/
def View.drawn (view : View) : List (Field × Bool) :=
  if view.contributes then Group.drawnAll true view.groups else []

/-- The references of fields that are drawn. -/
def drawnReferences (drawn : List (Field × Bool)) : List String := drawn.map (·.1.reference)

/-- The references of fields of a tree. -/
def FieldNode.references (leaves : List FieldNode) : List String := leaves.map (·.reference)

/-! ### The fields of a tree -/

theorem except_bind_eq_ok_iff {ε α β : Type} {first : Except ε α} {next : α → Except ε β}
    {result : β} :
    (first >>= next) = .ok result ↔ ∃ value, first = .ok value ∧ next value = .ok result := by
  cases first <;> simp [Bind.bind, Except.bind]

namespace Renderer

variable {renderer : Renderer} {context : RenderContext} {showLabel : Bool}

/-- Only a hidden control has no widget. -/
theorem widget_eq_none_iff {field : Field} {label : Option String}
    {widget : Option (Widget × Option TriggerEvent)}
    (ok : renderer.widget field context label = .ok widget) :
    widget = none ↔ field.control.kind = .hidden := by
  unfold Renderer.widget at ok
  cases kind : field.control.kind <;> simp only [kind] at ok
  case dateTime =>
    split at ok
    · cases shown : displayedDate renderer.settings
        (field.current context.values).displayText with
      | error error =>
        rw [shown] at ok
        cases ok
      | ok text =>
        rw [shown] at ok
        cases ok
        simp
    · cases ok
      simp
  all_goals
    first
    | cases ok
      simp
    | split at ok <;> cases ok <;> simp

/-- A field that is drawn is a leaf with its reference, whatever is said of its value. -/
theorem references_field {field : Field} {node : Option Node}
    (ok : renderer.field field context showLabel = .ok node) :
    FieldNode.references (Node.fieldsOf node.toList) =
      if field.isDrawn then [field.reference] else [] := by
  unfold Renderer.field at ok
  unfold Field.isDrawn
  cases visible : field.visible with
  | false =>
    rw [visible] at ok
    cases ok
    rfl
  | true =>
    rw [visible] at ok
    cases ran : renderer.widget field context (field.shownLabel showLabel) with
    | error error =>
      simp [ran, Bind.bind, Except.bind] at ok
    | ok widget =>
      have hidden := widget_eq_none_iff ran
      cases widget with
      | none =>
        simp only [ran, Bind.bind, Except.bind] at ok
        cases ok
        rw [hidden.1 rfl]
        rfl
      | some shown =>
        have drawn : field.control.kind ≠ .hidden := fun absurd => nomatch hidden.2 absurd
        simp only [ran, Bind.bind, Except.bind] at ok
        cases problem : field.problem? (field.current context.values) context.errors <;>
          rw [problem] at ok <;> cases ok <;>
          simp [drawn, FieldNode.references, Node.fieldsOf, Node.fields]

theorem references_append (leaves others : List FieldNode) :
    FieldNode.references (leaves ++ others) =
      FieldNode.references leaves ++ FieldNode.references others := List.map_append

theorem drawnReferences_append (drawn others : List (Field × Bool)) :
    drawnReferences (drawn ++ others) = drawnReferences drawn ++ drawnReferences others :=
  List.map_append

theorem fieldsOf_append (nodes others : List Node) :
    Node.fieldsOf (nodes ++ others) = Node.fieldsOf nodes ++ Node.fieldsOf others := by
  induction nodes with
  | nil => rfl
  | cons node nodes ih => simp [Node.fieldsOf, ih]

theorem cellFields_cons (cell : Option Node) (cells : List (Option Node)) :
    Node.cellFields (cell :: cells) = Node.fieldsOf cell.toList ++ Node.cellFields cells := by
  cases cell <;> simp [Node.cellFields, Node.fieldsOf]

/-- A box around several trees has their fields. -/
theorem references_boxed {run : Except UnwritableDate (List Node)} {box : List Node → Node}
    {node : Option Node} {drawn : List (Field × Bool)}
    (ok : (do return some (box (← run))) = Except.ok node)
    (fields : ∀ children, (box children).fields = Node.fieldsOf children)
    (inner : ∀ children, run = .ok children →
      FieldNode.references (Node.fieldsOf children) = drawnReferences drawn) :
    FieldNode.references (Node.fieldsOf node.toList) = drawnReferences drawn := by
  obtain ⟨children, ran, made⟩ := except_bind_eq_ok_iff.1 ok
  cases made
  rw [Option.toList, Node.fieldsOf, Node.fieldsOf, List.append_nil, fields, inner children ran]

/-- A grid has the fields of its header and then those of its rows. -/
theorem references_grid {header : Except UnwritableDate (List (Option Node))}
    {body : Except UnwritableDate (List GridRow)} {title : Option String}
    {binding : Option RepeatBinding} {loading : TextSet} {node : Option Node}
    {first second : List (Field × Bool)}
    (ok : (do
      let top ← header
      let rows ← body
      return some (.grid (assembleGrid title binding loading top rows))) = Except.ok node)
    (above : ∀ cells, header = .ok cells →
      FieldNode.references (Node.cellFields cells) = drawnReferences first)
    (below : ∀ rows, body = .ok rows →
      FieldNode.references (Node.rowFields rows) = drawnReferences second) :
    FieldNode.references (Node.fieldsOf node.toList) = drawnReferences (first ++ second) := by
  obtain ⟨top, upper, ok⟩ := except_bind_eq_ok_iff.1 ok
  obtain ⟨rows, lower, made⟩ := except_bind_eq_ok_iff.1 ok
  cases made
  rw [Option.toList, Node.fieldsOf, Node.fieldsOf, List.append_nil]
  change FieldNode.references (Node.cellFields top ++ Node.rowFields rows) = _
  rw [references_append, drawnReferences_append, above top upper, below rows lower]

theorem references_noCells (cells : List (Option Node))
    (ran : (pure [] : Except UnwritableDate (List (Option Node))) = .ok cells) :
    FieldNode.references (Node.cellFields cells) = drawnReferences [] := by
  cases ran
  rfl

theorem references_noRows (rows : List GridRow)
    (ran : (pure [] : Except UnwritableDate (List GridRow)) = .ok rows) :
    FieldNode.references (Node.rowFields rows) = drawnReferences [] := by
  cases ran
  rfl

mutual

/-- The fields of what is rendered of a group are those that are drawn of it. -/
theorem references_group (renderer : Renderer) (context : RenderContext)
    (showLabel reached : Bool) {node : Option Node} :
    ∀ {group : Group}, renderer.group context showLabel group = .ok node →
      FieldNode.references (Node.fieldsOf node.toList) = drawnReferences (group.drawn reached)
  | .view ⟨name, visible, groups, pageId⟩, ok => by
    cases visible with
    | false =>
      cases ok
      rfl
    | true =>
      exact references_boxed ok (fun _ => rfl) fun _ ran =>
        references_groups renderer context reached ran
  | .layout ⟨title, visible, format, groups, rows, view, reference, repeatKind, header⟩, ok => by
    cases visible with
    | false =>
      cases ok
      rfl
    | true =>
      cases format with
      | grid =>
        cases header with
        | none =>
          cases rows with
          | none => exact references_grid ok references_noCells references_noRows
          | some rows =>
            exact references_grid ok references_noCells fun _ ran =>
              references_gridRows renderer context _ reached ran
        | some row =>
          obtain ⟨inside⟩ := row
          cases rows with
          | none =>
            exact references_grid ok
              (fun _ ran => references_cells renderer context true false ran) references_noRows
          | some rows =>
            exact references_grid ok
              (fun _ ran => references_cells renderer context true false ran) fun _ ran =>
                references_gridRows renderer context _ reached ran
      | dynamic =>
        cases rows with
        | some rows =>
          exact references_boxed ok (fun _ => rfl) fun _ ran =>
            references_flatRows renderer context reached ran
        | none =>
          cases groups with
          | none =>
            cases ok
            rfl
          | some groups =>
            exact references_boxed ok (fun _ => rfl) fun _ ran =>
              references_groups renderer context _ ran
      | unrecognized tag =>
        cases groups with
        | some groups =>
          exact references_boxed ok (fun _ => rfl) fun _ ran =>
            references_groups renderer context _ ran
        | none =>
          cases view with
          | none =>
            cases ok
            rfl
          | some view =>
            obtain ⟨name, shows, groups, pageId⟩ := view
            cases contributes : shows || pageId.isSome with
            | false =>
              simp only [Renderer.group, Bool.not_true, Bool.false_eq_true, if_false,
                contributes] at ok
              cases ok
              simp [Group.drawn, contributes, FieldNode.references, drawnReferences, Node.fieldsOf]
            | true =>
              simp only [Renderer.group, Bool.not_true, Bool.false_eq_true, if_false,
                contributes, if_true] at ok
              simp only [Group.drawn, Bool.not_true, Bool.false_eq_true, if_false,
                contributes, if_true]
              exact references_boxed ok (fun children => by simp [Node.fields, Node.fieldsOf])
                fun _ ran => references_groups renderer context _ ran
      | _ =>
        cases groups with
        | none =>
          cases ok
          rfl
        | some groups =>
          exact references_boxed ok (fun _ => rfl) fun _ ran =>
            references_groups renderer context _ ran
  | .paragraph paragraph, ok => by
    cases ok
    cases paragraph.visible <;> rfl
  | .caption caption, ok => by
    cases ok
    rfl
  | .field leaf, ok => by
    rw [references_field ok, Group.drawn]
    cases leaf.isDrawn <;> rfl
  | .unsupported, ok => by
    cases ok
    rfl

theorem references_groups (renderer : Renderer) (context : RenderContext) (reached : Bool) :
    ∀ {groups : List Group} {nodes : List Node}, renderer.groups context groups = .ok nodes →
      FieldNode.references (Node.fieldsOf nodes) = drawnReferences (Group.drawnAll reached groups)
  | [], nodes, ok => by
    cases ok
    rfl
  | first :: rest, nodes, ok => by
    obtain ⟨node, here, ok⟩ := except_bind_eq_ok_iff.1 ok
    obtain ⟨others, there, made⟩ := except_bind_eq_ok_iff.1 ok
    cases made
    rw [fieldsOf_append, references_append, references_group renderer context true reached here,
      references_groups renderer context reached there, Group.drawnAll, drawnReferences_append]

theorem references_cells (renderer : Renderer) (context : RenderContext)
    (showLabel reached : Bool) :
    ∀ {groups : List Group} {cells : List (Option Node)},
      renderer.cells context showLabel groups = .ok cells →
        FieldNode.references (Node.cellFields cells) =
          drawnReferences (Group.drawnAll reached groups)
  | [], cells, ok => by
    cases ok
    rfl
  | first :: rest, cells, ok => by
    obtain ⟨cell, here, ok⟩ := except_bind_eq_ok_iff.1 ok
    obtain ⟨others, there, made⟩ := except_bind_eq_ok_iff.1 ok
    cases made
    rw [cellFields_cons, references_append,
      references_group renderer context showLabel reached here,
      references_cells renderer context showLabel reached there, Group.drawnAll,
      drawnReferences_append]

theorem references_gridRows (renderer : Renderer) (context : RenderContext) (keyed reached : Bool) :
    ∀ {rows : List Row} {body : List GridRow}, renderer.gridRows context keyed rows = .ok body →
      FieldNode.references (Node.rowFields body) = drawnReferences (Row.drawnAll reached rows)
  | [], body, ok => by
    cases ok
    rfl
  | ⟨groups⟩ :: rest, body, ok => by
    obtain ⟨cells, here, ok⟩ := except_bind_eq_ok_iff.1 ok
    obtain ⟨others, there, made⟩ := except_bind_eq_ok_iff.1 ok
    cases made
    rw [Node.rowFields, references_append, references_cells renderer context false reached here,
      references_gridRows renderer context keyed reached there, Row.drawnAll,
      drawnReferences_append]

theorem references_flatRows (renderer : Renderer) (context : RenderContext) (reached : Bool) :
    ∀ {rows : List Row} {nodes : List Node}, renderer.flatRows context rows = .ok nodes →
      FieldNode.references (Node.fieldsOf nodes) = drawnReferences (Row.drawnAll reached rows)
  | [], nodes, ok => by
    cases ok
    rfl
  | ⟨groups⟩ :: rest, nodes, ok => by
    obtain ⟨first, here, ok⟩ := except_bind_eq_ok_iff.1 ok
    obtain ⟨others, there, made⟩ := except_bind_eq_ok_iff.1 ok
    cases made
    rw [fieldsOf_append, references_append, references_groups renderer context reached here,
      references_flatRows renderer context reached there, Row.drawnAll, drawnReferences_append]

end

end Renderer

/-! ### What the seeding comes by -/

/-- The seeding comes by a field in these places, and takes its value if the field is bound. -/
def Seeds (reached : Bool) (field : Field) (echoes : List (String × Json)) : Prop :=
  reached = true ∧ (field.isBound = true → (field.reference, field.value) ∈ echoes)

/-- Where the seeding comes by only for want of something else, there is nothing else. -/
theorem Seeds.of_isNone {α : Type} {other : Option α} {reached : Bool} {field : Field}
    {echoes : List (String × Json)} (seeds : Seeds (reached && other.isNone) field echoes) :
    other = none ∧ Seeds reached field echoes := by
  obtain ⟨comes, taken⟩ := seeds
  rw [Bool.and_eq_true, Option.isNone_iff_eq_none] at comes
  exact ⟨comes.2, comes.1, taken⟩

mutual

/-- A field that is drawn where the seeding comes by is seeded if it is bound. -/
theorem Group.seeds_of_drawn (reached : Bool) {field : Field} :
    ∀ {group : Group}, (field, true) ∈ group.drawn reached → Seeds reached field group.echoes
  | .view ⟨_, visible, groups, pageId⟩, drawn => by
    cases visible with
    | false => cases drawn
    | true => exact Group.seeds_of_drawnAll reached drawn
  | .layout ⟨_, visible, format, groups, rows, view, _, _, header⟩, drawn => by
    cases visible with
    | false => cases drawn
    | true =>
      cases format with
      | grid =>
        cases rows with
        | none =>
          cases header with
          | none => cases drawn
          | some row =>
            obtain ⟨inside⟩ := row
            rcases List.mem_append.1 drawn with above | below
            · exact absurd (Group.seeds_of_drawnAll false above).1 Bool.false_ne_true
            · cases below
        | some rows =>
          cases header with
          | none => exact Row.seeds_of_drawnAll reached drawn
          | some row =>
            obtain ⟨inside⟩ := row
            rcases List.mem_append.1 drawn with above | below
            · exact absurd (Group.seeds_of_drawnAll false above).1 Bool.false_ne_true
            · exact Row.seeds_of_drawnAll reached below
      | dynamic =>
        cases rows with
        | some rows => exact Row.seeds_of_drawnAll reached drawn
        | none =>
          cases groups with
          | none => cases drawn
          | some groups =>
            obtain ⟨rfl, seeds⟩ := (Group.seeds_of_drawnAll _ drawn).of_isNone
            exact seeds
      | unrecognized tag =>
        cases groups with
        | some groups =>
          obtain ⟨rfl, within⟩ := (Group.seeds_of_drawnAll _ drawn).of_isNone
          obtain ⟨rfl, seeds⟩ := within.of_isNone
          exact seeds
        | none =>
          cases view with
          | none => cases drawn
          | some view =>
            obtain ⟨name, shows, groups, pageId⟩ := view
            simp only [Group.drawn, Bool.not_true, Bool.false_eq_true, if_false] at drawn
            split at drawn
            · next contributes =>
              obtain ⟨rfl, seeds⟩ := (Group.seeds_of_drawnAll _ drawn).of_isNone
              simpa only [Group.echoes, contributes, if_true] using seeds
            · cases drawn
      | _ =>
        cases groups with
        | none => cases drawn
        | some groups =>
          obtain ⟨rfl, within⟩ := (Group.seeds_of_drawnAll _ drawn).of_isNone
          obtain ⟨rfl, seeds⟩ := within.of_isNone
          exact seeds
  | .field leaf, drawn => by
    rw [Group.drawn] at drawn
    split at drawn
    · next shows =>
      obtain ⟨rfl, rfl⟩ := Prod.mk.inj (List.mem_singleton.1 drawn)
      have visible : field.visible = true := (Bool.and_eq_true_iff.1 shows).1
      refine ⟨rfl, fun bound => ?_⟩
      rw [Group.echoes, Field.echo, visible, bound]
      exact List.mem_singleton_self _
    · cases drawn
  | .paragraph _, drawn => nomatch drawn
  | .caption _, drawn => nomatch drawn
  | .unsupported, drawn => nomatch drawn

theorem Group.seeds_of_drawnAll (reached : Bool) {field : Field} :
    ∀ {groups : List Group}, (field, true) ∈ Group.drawnAll reached groups →
      Seeds reached field (Group.echoesAll groups)
  | [], drawn => nomatch drawn
  | group :: groups, drawn => by
    rcases List.mem_append.1 drawn with here | there
    · have ⟨comes, taken⟩ := Group.seeds_of_drawn reached here
      exact ⟨comes, fun bound => List.mem_append_left _ (taken bound)⟩
    · have ⟨comes, taken⟩ := Group.seeds_of_drawnAll reached there
      exact ⟨comes, fun bound => List.mem_append_right _ (taken bound)⟩

theorem Row.seeds_of_drawnAll (reached : Bool) {field : Field} :
    ∀ {rows : List Row}, (field, true) ∈ Row.drawnAll reached rows →
      Seeds reached field (Row.echoesAll rows)
  | [], drawn => nomatch drawn
  | ⟨groups⟩ :: rows, drawn => by
    rcases List.mem_append.1 drawn with here | there
    · have ⟨comes, taken⟩ := Group.seeds_of_drawnAll reached here
      exact ⟨comes, fun bound => List.mem_append_left _ (taken bound)⟩
    · have ⟨comes, taken⟩ := Row.seeds_of_drawnAll reached there
      exact ⟨comes, fun bound => List.mem_append_right _ (taken bound)⟩

end

/-- Every field that is shown has been seeded, unless it is overlooked. The fields of a rendered
view are those that are drawn of it, in the same order. A bound field is seeded if it is drawn where
the seeding comes by. So a rendered view shows no bound field without a seeded value just if each
field that is drawn where the seeding does not come by, as in the header of a grid or among the
groups of a layout that has rows as well, has its reference from another field that is seeded. -/
theorem seeded_unless_overlooked {renderer : Renderer} {view : View} {context : RenderContext}
    {tree : Node} (rendered : renderer.view view context = .ok (some tree)) :
    tree.fields.map (·.reference) = view.drawn.map (·.1.reference) ∧
    (∀ field, (field, true) ∈ view.drawn → field.isBound = true →
      view.seed.contains field.reference = true) ∧
    ((∀ leaf ∈ tree.fields, leaf.reference ≠ "" → view.seed.contains leaf.reference = true) ↔
      ∀ field, (field, false) ∈ view.drawn → field.isBound = true →
        view.seed.contains field.reference = true) := by
  unfold Renderer.view at rendered
  unfold View.drawn View.seed View.echoes
  cases contributes : view.contributes with
  | false =>
    rw [contributes] at rendered
    cases rendered
  | true =>
    rw [contributes] at rendered
    obtain ⟨children, ran, made⟩ := except_bind_eq_ok_iff.1 rendered
    cases made
    simp only [if_true]
    have same := Renderer.references_groups renderer context true ran
    have seeded (field : Field) (drawn : (field, true) ∈ Group.drawnAll true view.groups)
        (bound : field.isBound = true) :
        (Table.ofList (Group.echoesAll view.groups)).contains field.reference = true :=
      Table.contains_ofList.2 ⟨_, (Group.seeds_of_drawnAll true drawn).2 bound⟩
    refine ⟨same, seeded, ?_, ?_⟩
    · intro all field drawn bound
      have shown : field.reference ∈ FieldNode.references (Node.fieldsOf children) := by
        rw [same]
        exact List.mem_map_of_mem drawn
      obtain ⟨leaf, mem, eq⟩ := List.mem_map.1 shown
      rw [← eq]
      refine all leaf mem ?_
      rw [eq]
      simpa [Field.isBound] using bound
    · intro overlooked leaf mem named
      have shown : leaf.reference ∈ drawnReferences (Group.drawnAll true view.groups) := by
        rw [← same]
        exact List.mem_map_of_mem mem
      obtain ⟨⟨field, comes⟩, drawn, eq⟩ := List.mem_map.1 shown
      dsimp only at eq
      have bound : field.isBound = true := by simpa [Field.isBound, eq] using named
      rw [← eq]
      cases comes with
      | true => exact seeded field drawn bound
      | false => exact overlooked field drawn bound

/-- A text field with a value of the server. -/
def sampleField (reference value : String) : Group :=
  .field { Field.record.blank with
    reference := reference
    value := .str value
    control := { Control.undefined with kind := .textInput } }

/-- A view with one layout. -/
def sampleView (format : GroupFormat) (groups : List Group) (rows : Option (List Row))
    (header : Option Row) : View :=
  ⟨"V", true, [.layout ⟨none, true, format, some groups, rows, none, none, none, header⟩], none⟩

/-- A rendering of a form in which nothing has been edited. -/
def sampleContext (view : View) : RenderContext := ⟨view.seed, .empty, .empty, ⟨0, 0, 0⟩⟩

/-- The fields of rows are seeded. -/
theorem rows_seeded :
    let rows := [⟨[sampleField "A" "x"]⟩, ⟨[sampleField "B" "y"]⟩]
    let view := sampleView .dynamic [] (some rows) none
    ∃ tree, (Renderer.ofSettings {}).view view (sampleContext view) = .ok (some tree) ∧
      ∀ leaf ∈ tree.fields, leaf.reference ≠ "" → view.seed.contains leaf.reference = true := by
  intro rows view
  refine ⟨_, rfl, (@seeded_unless_overlooked (.ofSettings {}) view (sampleContext view) _ rfl).2.2.2
    ?_⟩
  intro field drawn
  have none : (view.drawn.filter fun drawn => !drawn.2) = [] := rfl
  exact absurd drawn (by simpa using List.filter_eq_nil_iff.1 none (field, false))

/-- A field in the header of a grid is shown without the value that the server sent, and so is a
field among the groups of a stacked layout with rows. -/
theorem header_and_groups_overlooked :
    (let view := sampleView .grid [] (some [⟨[sampleField "L(1)" "x"]⟩])
      (some ⟨[sampleField "Total" "7"]⟩)
    ∃ tree, (Renderer.ofSettings {}).view view (sampleContext view) = .ok (some tree) ∧
      tree.fields.map (·.reference) = ["Total", "L(1)"] ∧ view.seed.keys = ["L(1)"]) ∧
    (let view := sampleView .stacked [sampleField "Name" "Ada"] (some []) none
    ∃ tree, (Renderer.ofSettings {}).view view (sampleContext view) = .ok (some tree) ∧
      tree.fields.map (·.reference) = ["Name"] ∧ view.seed.keys = []) :=
  ⟨⟨_, rfl, rfl, rfl⟩, ⟨_, rfl, rfl, rfl⟩⟩

end CaseForm
