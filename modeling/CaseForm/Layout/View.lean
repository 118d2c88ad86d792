import CaseForm.Layout.Field
import CaseForm.Layout.RepeatKind

/-!
Views: the tree of a layout document.

A view holds groups, and a group is one of five things or something that this library does not
know. A group with two of them at once is a fault of its own (`DecodeError.groupVariants`), found
when all of the group has been read.
-/

namespace CaseForm

/-- The arrangement that a layout asks for. -/
inductive GroupFormat where
  | inlineGridDouble
  | inlineGridTriple
  | inlineGrid7030
  | inlineGrid3070
  | stacked
  | grid
  | dynamic
  | inlineMiddle
  /-- A format that is not known, by its tag. -/
  | unrecognized (tag : String)
  deriving DecidableEq, Repr, Inhabited

namespace GroupFormat

/-- The tag that is written for a format. -/
def tag : GroupFormat → String
  | .inlineGridDouble => "Inline grid double"
  | .inlineGridTriple => "Inline grid triple"
  | .inlineGrid7030 => "Inline grid 70 30"
  | .inlineGrid3070 => "Inline grid 30 70"
  | .stacked => "Stacked"
  | .grid => "Grid"
  | .dynamic => "Dynamic"
  | .inlineMiddle => "Inline middle"
  | .unrecognized tag => tag

/-- The format that a tag names. -/
def ofTag : String → GroupFormat
  | "Inline grid double" => .inlineGridDouble
  | "Inline grid triple" => .inlineGridTriple
  | "Inline grid 70 30" => .inlineGrid7030
  | "Inline grid 30 70" => .inlineGrid3070
  | "Stacked" => .stacked
  | "Grid" => .grid
  | "Dynamic" => .dynamic
  | "Inline middle" => .inlineMiddle
  | tag => .unrecognized tag

/-- Formats by their tags. -/
def codec : Codec GroupFormat := .named ofTag tag

end GroupFormat

/-- A paragraph of HTML. -/
structure Paragraph where
  value : String
  visible : Bool
  deriving DecidableEq, Repr, Inhabited

/-- Nothing is required; a paragraph is visible unless it says otherwise. -/
def Paragraph.record : Record Paragraph where
  blank := ⟨"", true⟩
  slots := [
    .always "value" .textOrNull (·.value) fun v r => { r with value := v },
    .always "visible" .flag (·.visible) fun v r => { r with visible := v }]

/-- A caption. -/
structure Caption where
  value : String
  deriving DecidableEq, Repr, Inhabited

/-- Nothing is required. -/
def Caption.record : Record Caption where
  blank := ⟨""⟩
  slots := [.always "value" .textOrNull (·.value) fun v r => { r with value := v }]

mutual

/-- A named container of groups. A page is a view with a page identifier. -/
structure View where
  name : String
  visible : Bool
  groups : List Group
  pageId : Option String

/-- One element of a view. -/
inductive Group where
  | view (view : View)
  | layout (layout : Layout)
  | paragraph (paragraph : Paragraph)
  | caption (caption : Caption)
  | field (field : Field)
  /-- An element that is not known; it shows nothing. -/
  | unsupported

/-- Groups in an arrangement: a flat list, rows, or a nested view. A grid may be bound to a
repeating structure by its reference. -/
structure Layout where
  title : Option String
  visible : Bool
  format : GroupFormat
  groups : Option (List Group)
  rows : Option (List Row)
  view : Option View
  reference : Option String
  repeatKind : Option RepeatKind
  header : Option Row

/-- A row of groups. -/
structure Row where
  groups : List Group

end

instance : Inhabited Group := ⟨.unsupported⟩
instance : Inhabited View := ⟨⟨"", true, [], none⟩⟩
instance : Inhabited Row := ⟨⟨[]⟩⟩
instance : Inhabited Layout := ⟨⟨none, true, default, none, none, none, none, none, none⟩⟩

namespace View

/-- Whether the view is a page. -/
def isPage (view : View) : Bool := view.pageId.isSome

/-- Whether the view shows its groups at the top: a page does so even when it is not flagged as
visible. -/
def contributes (view : View) : Bool := view.visible || view.isPage

end View

/-- What a group is, in a word. -/
def Group.kindName : Group → String
  | .view _ => "view"
  | .layout _ => "layout"
  | .paragraph _ => "paragraph"
  | .caption _ => "caption"
  | .field _ => "field"
  | .unsupported => "unsupported"

/-! ### Nesting -/

mutual

/-- How many groups lie inside one another, this one included. -/
def Group.depth : Group → Nat
  | .view ⟨_, _, groups, _⟩ => Group.depthAll groups + 1
  | .layout ⟨_, _, _, groups, rows, view, _, _, header⟩ =>
    max (max (Group.depthSome groups) (Row.depthSome rows))
      (max (View.depthSome view) (Row.depthOne header)) + 1
  | _ => 1

/-- The greatest nesting of groups. -/
def Group.depthAll : List Group → Nat
  | [] => 0
  | group :: groups => max group.depth (Group.depthAll groups)

/-- The greatest nesting of groups that may be absent. -/
def Group.depthSome : Option (List Group) → Nat
  | none => 0
  | some groups => Group.depthAll groups

/-- The greatest nesting of the groups of rows. -/
def Row.depthAll : List Row → Nat
  | [] => 0
  | ⟨groups⟩ :: rows => max (Group.depthAll groups) (Row.depthAll rows)

/-- The greatest nesting of the groups of rows that may be absent. -/
def Row.depthSome : Option (List Row) → Nat
  | none => 0
  | some rows => Row.depthAll rows

/-- The greatest nesting of the groups of a row that may be absent. -/
def Row.depthOne : Option Row → Nat
  | none => 0
  | some ⟨groups⟩ => Group.depthAll groups

/-- The greatest nesting of the groups of a view that may be absent. -/
def View.depthSome : Option View → Nat
  | none => 0
  | some ⟨_, _, groups, _⟩ => Group.depthAll groups

end

/-- The greatest nesting of the groups of a view. -/
def View.depth (view : View) : Nat := Group.depthAll view.groups

/-- The greatest nesting of the groups of a layout. -/
def Layout.depth (layout : Layout) : Nat :=
  max (max (Group.depthSome layout.groups) (Row.depthSome layout.rows))
    (max (View.depthSome layout.view) (Row.depthOne layout.header))

end CaseForm
