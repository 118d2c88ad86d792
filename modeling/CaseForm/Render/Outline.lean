import CaseForm.Render.Node
import CaseForm.Text.Blank

/-!
Render trees as an outline: one line for each element, with branches drawn to its children.
-/

namespace CaseForm

/-- The words for an arrangement. -/
def Arrangement.words : Arrangement → String
  | .doubleColumn => "double column"
  | .tripleColumn => "triple column"
  | .split left right => "split " ++ toString left ++ "/" ++ toString right
  | .stacked => "stacked"
  | .dynamic => "dynamic"
  | .inlineMiddle => "inline middle"

/-- A text in single quotes. -/
def inQuotes (text : String) : String := "'" ++ text ++ "'"

/-- An icon in a word or two. -/
def Glyph.summary : Glyph → String
  | .named name => "Icon " ++ name.getD "?"
  | .image file => "Icon image " ++ file
  | .url source => "Icon url " ++ source
  | .styleClass name => "Icon class " ++ name
  | .undefined => "Icon"

/-- A widget and its value in a few words. -/
def Widget.summary : Widget → String
  | .textInput value numeric _ =>
    (if numeric then "NumberInput = " else "TextInput = ") ++ inQuotes value
  | .textArea value _ => "TextArea = " ++ inQuotes value
  | .checkbox checked => "Checkbox = " ++ (if checked then "true" else "false")
  | .dropdown value _ _ => "Dropdown = " ++ inQuotes value
  | .radioGroup options =>
    let selected := ((options.find? (·.checked)).map (·.key)).getD ""
    "RadioGroup(" ++ toString options.length ++ ") = " ++ inQuotes selected
  | .autoComplete value _ => "AutoComplete = " ++ inQuotes value
  | .datePicker none => "DatePicker"
  | .datePicker (some date) => "DatePicker = " ++ date.text
  | .button caption => "Button " ++ inQuotes caption
  | .label text => "Label " ++ inQuotes text
  | .link text target _ => "Link " ++ inQuotes text ++ " -> " ++ inQuotes target
  | .icon glyph => glyph.summary
  | .readOnly value => "ReadOnly = " ++ inQuotes value
  | .unsupported kind => "Unsupported " ++ inQuotes kind

/-- The name of an event in an outline. -/
def TriggerEvent.word : TriggerEvent → String
  | .blur => "Blur"
  | .click => "Click"
  | .select => "Select"
  | .change => "Change"

/-- The line of a field. -/
def FieldNode.summary (node : FieldNode) : String :=
  let reference := if node.reference = "" then "" else " " ++ node.reference
  let label := match (node.label.map Text.trim).filter (· ≠ "") with
    | some label => " \"" ++ label ++ "\""
    | none => ""
  let flags := (if node.required then ["required"] else []) ++
    (if node.disabled then ["disabled"] else []) ++ (if node.readOnly then ["read-only"] else [])
  let flagText := if flags.isEmpty then "" else " [" ++ String.intercalate ", " flags ++ "]"
  let trigger := match node.trigger with
    | some trigger =>
      " on " ++ trigger.event.word ++ " (" ++ toString trigger.handler.steps.length ++ " step(s))"
    | none => ""
  node.widget.summary ++ reference ++ label ++ flagText ++ trigger

/-- A title, set off by a blank. -/
def titleText (title : Option String) : String :=
  match title with
  | some title => " " ++ inQuotes title
  | none => ""

/-- The first line of a grid. -/
def gridSummary (title : Option String) (binding : Option RepeatBinding) (loading : Bool) :
    String :=
  let bound := match binding with
    | some ⟨reference, .group⟩ => " <group " ++ reference ++ ">"
    | some ⟨reference, .list⟩ => " <list " ++ reference ++ ">"
    | none => ""
  "Grid" ++ titleText title ++ bound ++ (if loading then " (loading)" else "")

/-- The branch to an element, which ends its line of siblings or not. -/
def branch (last : Bool) : String := if last then "└── " else "├── "

/-- The indent below an element. -/
def indentBelow (indent : String) (last : Bool) : String :=
  indent ++ (if last then "    " else "│   ")

namespace Node

mutual

/-- The lines of a tree. -/
def outlineBelow (indent : String) (last : Bool) : Node → String
  | .view name divided children =>
    indent ++ branch last ++ "View " ++ inQuotes name ++ (if divided then " (divided)" else "") ++
      "\n" ++ outlineAll (indentBelow indent last) children
  | .layout title arrangement children =>
    indent ++ branch last ++ "Layout [" ++ arrangement.words ++ "]" ++ titleText title ++ "\n" ++
      outlineAll (indentBelow indent last) children
  | .grid ⟨title, binding, header, rows, _, loading⟩ =>
    let inner := indentBelow indent last
    indent ++ branch last ++ gridSummary title binding loading ++ "\n" ++
      inner ++ branch rows.isEmpty ++ "Header\n" ++
      outlineCells (indentBelow inner rows.isEmpty) header ++ outlineRows inner 1 rows
  | .paragraph html => indent ++ branch last ++ "Paragraph: " ++ html ++ "\n"
  | .caption text => indent ++ branch last ++ "Caption: " ++ text ++ "\n"
  | .field leaf => indent ++ branch last ++ leaf.summary ++ "\n"
  | .annotated message child =>
    indent ++ branch last ++ "Error: " ++ message ++ "\n" ++
      child.outlineBelow (indentBelow indent last) true

/-- The lines of siblings. -/
def outlineAll (indent : String) : List Node → String
  | [] => ""
  | node :: nodes => node.outlineBelow indent nodes.isEmpty ++ outlineAll indent nodes

/-- The lines of cells, without those that show nothing. -/
def outlineCells (indent : String) : List (Option Node) → String
  | [] => ""
  | none :: cells => outlineCells indent cells
  | some node :: cells =>
    node.outlineBelow indent (cells.all Option.isNone) ++ outlineCells indent cells

/-- The lines of rows, numbered from a position. -/
def outlineRows (indent : String) (position : Nat) : List GridRow → String
  | [] => ""
  | ⟨key, cells⟩ :: rows =>
    let keyText := match key with
      | some key => " (" ++ key ++ ")"
      | none => ""
    indent ++ branch rows.isEmpty ++ "Row " ++ toString position ++ keyText ++ "\n" ++
      outlineCells (indentBelow indent rows.isEmpty) cells ++ outlineRows indent (position + 1) rows

end

/-- The outline of a tree. -/
def outline (node : Node) : String := node.outlineBelow "" true

end Node

end CaseForm
