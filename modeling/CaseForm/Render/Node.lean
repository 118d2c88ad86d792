import CaseForm.Calendar.Date
import CaseForm.Handler.Compose
import CaseForm.Layout.RepeatKind

/-!
Render trees: what a view looks like with the values that are being edited.

The fields of a tree are searched in two ways: one collects all of them in document order, the
other stops at the first with a reference. Both go through the children of an element in their
order, in which a grid's header stands before its rows.
-/

namespace CaseForm

/-- How a layout arranges its children. -/
inductive Arrangement where
  /-- Two equal columns. -/
  | doubleColumn
  | tripleColumn
  /-- Two columns of these widths, out of sixteen. -/
  | split (left right : Nat)
  | stacked
  /-- The groups of every row, one row after another. -/
  | dynamic
  /-- One row, with columns as wide as their content. -/
  | inlineMiddle
  deriving DecidableEq, Repr, Inhabited

/-- The width of a column out of sixteen, where the arrangement fixes one. -/
def Arrangement.columnWidth : Arrangement → Nat → Option Nat
  | .doubleColumn, _ => some 8
  | .split left _, 0 => some left
  | .split _ right, 1 => some right
  | _, _ => none

/-- The repeating structure that a grid edits. -/
structure RepeatBinding where
  reference : String
  kind : RepeatKind
  deriving DecidableEq, Repr, Inhabited

/-- A page of data that options come from. -/
structure DataPageSource where
  pageId : String
  valueProperty : String
  promptProperty : String
  deriving DecidableEq, Repr, Inhabited

/-- Where the options of a dropdown come from. -/
inductive OptionSource where
  | here (options : List ModeOption)
  | dataPage (source : DataPageSource)
  deriving DecidableEq, Repr, Inhabited

/-- One of several options to choose from. -/
structure RadioOption where
  key : String
  label : String
  checked : Bool
  disabled : Bool
  deriving DecidableEq, Repr, Inhabited

/-- Where the image of a link stands. -/
inductive ImagePosition where
  | left
  | right
  /-- There is an image, but it is not placed. -/
  | hidden
  deriving DecidableEq, Repr, Inhabited

/-- The image of a link. -/
structure LinkImage where
  file : String
  position : ImagePosition
  deriving DecidableEq, Repr, Inhabited

/-- What an icon shows. -/
inductive Glyph where
  /-- An icon by its name; none for a standard icon that is not known. -/
  | named (name : Option String)
  | image (file : String)
  | url (source : String)
  | styleClass (name : String)
  | undefined
  deriving DecidableEq, Repr, Inhabited

/-- What a field shows. -/
inductive Widget where
  | textInput (value : String) (numeric : Bool) (placeholder : Option String)
  | textArea (value : String) (placeholder : Option String)
  | checkbox (checked : Bool)
  | dropdown (value : String) (placeholder : Option String) (source : OptionSource)
  | radioGroup (options : List RadioOption)
  | autoComplete (value : String) (source : DataPageSource)
  | datePicker (date : Option Date)
  | button (caption : String)
  | label (text : String)
  | link (text target : String) (image : Option LinkImage)
  | icon (glyph : Glyph)
  /-- A value that cannot be edited. -/
  | readOnly (value : String)
  /-- A placeholder for a control that is not known. -/
  | unsupported (kind : String)
  deriving DecidableEq, Repr, Inhabited

/-- The event by which a widget fires. -/
inductive TriggerEvent where
  | blur
  | click
  | select
  | change
  deriving DecidableEq, Repr, Inhabited

/-- A handler and the event that runs it. -/
structure Trigger where
  event : TriggerEvent
  handler : Handler
  deriving Repr, Inhabited

/-- A rendered field. -/
structure FieldNode where
  reference : String
  name : String
  label : Option String
  required : Bool
  disabled : Bool
  readOnly : Bool
  widget : Widget
  trigger : Option Trigger
  deriving Repr, Inhabited

mutual

/-- A rendered element. -/
inductive Node where
  /-- A view; a divided one is set off from what stands before it. -/
  | view (name : String) (divided : Bool) (children : List Node)
  | layout (title : Option String) (arrangement : Arrangement) (children : List Node)
  | grid (grid : Grid)
  /-- HTML as the server sent it. -/
  | paragraph (html : String)
  | caption (text : String)
  | field (field : FieldNode)
  /-- An element with a validation message. -/
  | annotated (message : String) (child : Node)

/-- A rendered table. A cell that shows nothing is none. -/
structure Grid where
  title : Option String
  /-- What the table edits; none for a plain table. -/
  binding : Option RepeatBinding
  header : List (Option Node)
  rows : List GridRow
  /-- The number of columns that the footer spans. -/
  footerSpan : Nat
  /-- Whether a row is being added or removed. -/
  loading : Bool

/-- A row of a rendered table, with the key of its entry where the table edits a group. -/
structure GridRow where
  key : Option String
  cells : List (Option Node)

end

instance : Inhabited Node := ⟨.caption ""⟩

namespace Node

/-- The elements directly inside an element, in document order. -/
def children : Node → List Node
  | .view _ _ children | .layout _ _ children => children
  | .grid ⟨_, _, header, rows, _, _⟩ =>
    header.filterMap id ++ rows.flatMap fun row => row.cells.filterMap id
  | .annotated _ child => [child]
  | .field _ | .paragraph _ | .caption _ => []

/-! ### All fields in document order -/

mutual

/-- The fields of a tree. -/
def fields : Node → List FieldNode
  | .view _ _ children | .layout _ _ children => fieldsOf children
  | .grid ⟨_, _, header, rows, _, _⟩ => cellFields header ++ rowFields rows
  | .field leaf => [leaf]
  | .annotated _ child => child.fields
  | .paragraph _ | .caption _ => []

/-- The fields of several trees. -/
def fieldsOf : List Node → List FieldNode
  | [] => []
  | node :: nodes => node.fields ++ fieldsOf nodes

/-- The fields of cells. -/
def cellFields : List (Option Node) → List FieldNode
  | [] => []
  | none :: cells => cellFields cells
  | some node :: cells => node.fields ++ cellFields cells

/-- The fields of rows. -/
def rowFields : List GridRow → List FieldNode
  | [] => []
  | ⟨_, cells⟩ :: rows => cellFields cells ++ rowFields rows

end

/-! ### The first field with a reference -/

mutual

/-- The first field of a tree with a reference. -/
def findField? (reference : String) : Node → Option FieldNode
  | .view _ _ children | .layout _ _ children => findFieldIn? reference children
  | .grid ⟨_, _, header, rows, _, _⟩ =>
    match findFieldInCells? reference header with
    | some found => some found
    | none => findFieldInRows? reference rows
  | .field leaf => if leaf.reference = reference then some leaf else none
  | .annotated _ child => child.findField? reference
  | .paragraph _ | .caption _ => none

/-- The first field of several trees with a reference. -/
def findFieldIn? (reference : String) : List Node → Option FieldNode
  | [] => none
  | node :: nodes =>
    match node.findField? reference with
    | some found => some found
    | none => findFieldIn? reference nodes

/-- The first field of cells with a reference. -/
def findFieldInCells? (reference : String) : List (Option Node) → Option FieldNode
  | [] => none
  | none :: cells => findFieldInCells? reference cells
  | some node :: cells =>
    match node.findField? reference with
    | some found => some found
    | none => findFieldInCells? reference cells

/-- The first field of rows with a reference. -/
def findFieldInRows? (reference : String) : List GridRow → Option FieldNode
  | [] => none
  | ⟨_, cells⟩ :: rows =>
    match findFieldInCells? reference cells with
    | some found => some found
    | none => findFieldInRows? reference rows

end

/-! ### All arrangements in document order -/

mutual

/-- The arrangements of the layouts of a tree. -/
def arrangements : Node → List Arrangement
  | .view _ _ children => arrangementsOf children
  | .layout _ arrangement children => arrangement :: arrangementsOf children
  | .grid ⟨_, _, header, rows, _, _⟩ => cellArrangements header ++ rowArrangements rows
  | .annotated _ child => child.arrangements
  | .field _ | .paragraph _ | .caption _ => []

/-- The arrangements of several trees. -/
def arrangementsOf : List Node → List Arrangement
  | [] => []
  | node :: nodes => node.arrangements ++ arrangementsOf nodes

/-- The arrangements of cells. -/
def cellArrangements : List (Option Node) → List Arrangement
  | [] => []
  | none :: cells => cellArrangements cells
  | some node :: cells => node.arrangements ++ cellArrangements cells

/-- The arrangements of rows. -/
def rowArrangements : List GridRow → List Arrangement
  | [] => []
  | ⟨_, cells⟩ :: rows => cellArrangements cells ++ rowArrangements rows

end

end Node

end CaseForm
