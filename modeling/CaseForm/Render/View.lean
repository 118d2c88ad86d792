import CaseForm.Layout.RowKey
import CaseForm.Render.Field

/-!
Rendering views, groups and layouts.

A view that is not visible shows nothing, except a page at the top. A layout of an unknown format
stacks its groups, or shows its nested view, or nothing. The cells of a grid's body leave the
labels to its header.
-/

namespace CaseForm

/-- The arrangement of a format that has one of its own. -/
def GroupFormat.arrangement : GroupFormat → Arrangement
  | .inlineGridDouble => .doubleColumn
  | .inlineGridTriple => .tripleColumn
  | .inlineGrid7030 => .split 11 5
  | .inlineGrid3070 => .split 5 11
  | .dynamic => .dynamic
  | .inlineMiddle => .inlineMiddle
  | .stacked | .grid | .unrecognized _ => .stacked

/-- The repeating structure that a layout is bound to, which is a list unless it says so. -/
def repeatBinding? (reference : Option String) (kind : Option RepeatKind) :
    Option RepeatBinding :=
  (nonEmpty? reference).map fun reference => ⟨reference, kind.getD .list⟩

/-- Whether a binding is to a group. -/
def bindsGroup (binding : Option RepeatBinding) : Bool :=
  match binding with
  | some ⟨_, .group⟩ => true
  | _ => false

/-- A grid of rendered cells. -/
def assembleGrid (title : Option String) (binding : Option RepeatBinding) (loading : TextSet)
    (header : List (Option Node)) (rows : List GridRow) : Grid :=
  { title := title
    binding := binding
    header := header
    rows := rows
    footerSpan := if bindsGroup binding then header.length + 1 else header.length
    loading := match binding with
      | some binding => loading.contains binding.reference
      | none => false }

namespace Renderer

mutual

/-- Renders a group. -/
def group (renderer : Renderer) (context : RenderContext) (showLabel : Bool) :
    Group → Except UnwritableDate (Option Node)
  | .view ⟨name, visible, groups, _⟩ =>
    if visible then do
      let children ← renderer.groups context groups
      return some (.view name true children)
    else .ok none
  | .layout ⟨title, visible, format, groups, rows, view, reference, repeatKind, header⟩ =>
    if !visible then .ok none
    else match format with
      | .grid => do
        let binding := repeatBinding? reference repeatKind
        let headerCells ← match header with
          | none => pure []
          | some ⟨groups⟩ => renderer.cells context true groups
        let body ← match rows with
          | none => pure []
          | some rows => renderer.gridRows context (bindsGroup binding) rows
        return some (.grid (assembleGrid title binding context.loading headerCells body))
      | .dynamic => do
        let children ← match rows with
          | some rows => renderer.flatRows context rows
          | none =>
            match groups with
            | some groups => renderer.groups context groups
            | none => pure []
        return some (.layout title .dynamic children)
      | .unrecognized _ =>
        match groups with
        | some groups => do
          let children ← renderer.groups context groups
          return some (.layout title .stacked children)
        | none =>
          match view with
          | none => .ok none
          | some ⟨name, visible, groups, pageId⟩ =>
            if visible || pageId.isSome then do
              let children ← renderer.groups context groups
              return some (.layout title .stacked [.view name false children])
            else .ok none
      | format => do
        let children ← match groups with
          | some groups => renderer.groups context groups
          | none => pure []
        return some (.layout title format.arrangement children)
  | .paragraph paragraph =>
    .ok (if paragraph.visible then some (.paragraph paragraph.value) else none)
  | .caption caption => .ok (some (.caption caption.value))
  | .field leaf => renderer.field leaf context showLabel
  | .unsupported => .ok none

/-- Renders groups with their labels, and leaves out those that show nothing. -/
def groups (renderer : Renderer) (context : RenderContext) :
    List Group → Except UnwritableDate (List Node)
  | [] => .ok []
  | first :: rest => do
    let node ← renderer.group context true first
    let nodes ← renderer.groups context rest
    return node.toList ++ nodes

/-- Renders groups as cells, each in its own place. -/
def cells (renderer : Renderer) (context : RenderContext) (showLabel : Bool) :
    List Group → Except UnwritableDate (List (Option Node))
  | [] => .ok []
  | first :: rest => do
    let node ← renderer.group context showLabel first
    let nodes ← renderer.cells context showLabel rest
    return node :: nodes

/-- Renders the rows of a grid, with their keys where the grid edits a group. -/
def gridRows (renderer : Renderer) (context : RenderContext) (keyed : Bool) :
    List Row → Except UnwritableDate (List GridRow)
  | [] => .ok []
  | ⟨groups⟩ :: rest => do
    let cells ← renderer.cells context false groups
    let rows ← renderer.gridRows context keyed rest
    return ⟨if keyed then Row.groupKey? ⟨groups⟩ else none, cells⟩ :: rows

/-- Renders the groups of rows one row after another. -/
def flatRows (renderer : Renderer) (context : RenderContext) :
    List Row → Except UnwritableDate (List Node)
  | [] => .ok []
  | ⟨groups⟩ :: rest => do
    let nodes ← renderer.groups context groups
    let more ← renderer.flatRows context rest
    return nodes ++ more

end

/-- Renders a view or page at the top. -/
def view (renderer : Renderer) (view : View) (context : RenderContext) :
    Except UnwritableDate (Option Node) :=
  if view.contributes then do
    let children ← renderer.groups context view.groups
    return some (.view view.name false children)
  else .ok none

end Renderer

end CaseForm
