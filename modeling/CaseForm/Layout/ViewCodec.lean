import CaseForm.Layout.View

/-!
The codecs of views, groups, layouts and rows.

Groups lie inside one another, so their codec is built in stages: the codec of stage `n + 1` reads
and writes inner groups by the codec of stage `n`, and the first stage reads nothing. `View.read`
takes as many stages as the text is deep and `View.write` as many as the view is, so neither runs
out of them.
-/

namespace CaseForm

/-- The elements of a group as they are written, each under its own key. -/
structure GroupParts where
  view : Option View
  layout : Option Layout
  paragraph : Option Paragraph
  caption : Option Caption
  field : Option Field

namespace GroupParts

/-- No element. -/
def none : GroupParts := ⟨.none, .none, .none, .none, .none⟩

/-- The groups that the parts make up, one for each. -/
def groups (parts : GroupParts) : List Group :=
  (parts.view.map Group.view).toList ++ (parts.layout.map Group.layout).toList ++
    (parts.paragraph.map Group.paragraph).toList ++ (parts.caption.map Group.caption).toList ++
    (parts.field.map Group.field).toList

/-- The one group that the parts make up. -/
def toGroup (parts : GroupParts) : Except DecodeError Group :=
  match parts.groups with
  | [] => .ok .unsupported
  | [group] => .ok group
  | groups => .error (.groupVariants groups.length)

/-- The parts of a group. -/
def ofGroup : Group → GroupParts
  | .view view => { none with view := view }
  | .layout layout => { none with layout := layout }
  | .paragraph paragraph => { none with paragraph := paragraph }
  | .caption caption => { none with caption := caption }
  | .field field => { none with field := field }
  | .unsupported => none

end GroupParts

/-- Rows of groups. -/
def Row.record (group : Codec Group) : Record Row where
  blank := ⟨[]⟩
  slots := [.always "groups" group.list (·.groups) fun v r => { r with groups := v }]

/-- Views of groups. -/
def View.record (group : Codec Group) : Record View where
  blank := ⟨"", true, [], none⟩
  slots := [
    .always "name" .textOrNull (·.name) fun v r => { r with name := v },
    .always "visible" .flag (·.visible) fun v r => { r with visible := v },
    .always "groups" group.list (·.groups) fun v r => { r with groups := v },
    .optional "pageID" .text (·.pageId) fun v r => { r with pageId := v }]

/-- Layouts of groups. -/
def Layout.record (group : Codec Group) : Record Layout where
  blank := ⟨none, true, .unrecognized "", none, none, none, none, none, none⟩
  slots := [
    .optional "title" .text (·.title) fun v r => { r with title := v },
    .always "visible" .flag (·.visible) fun v r => { r with visible := v },
    .always "groupFormat" GroupFormat.codec (·.format) fun v r => { r with format := v },
    .optional "groups" group.list (·.groups) fun v r => { r with groups := v },
    .optional "rows" (Row.record group).codec.list (·.rows) fun v r => { r with rows := v },
    .optional "view" (View.record group).codec (·.view) fun v r => { r with view := v },
    .optional "reference" .text (·.reference) fun v r => { r with reference := v },
    .optional "referenceType" RepeatKind.codec (·.repeatKind) fun v r => { r with repeatKind := v },
    .optional "header" (Row.record group).codec (·.header) fun v r => { r with header := v }]

/-- The parts of groups. -/
def GroupParts.record (group : Codec Group) : Record GroupParts where
  blank := .none
  slots := [
    .optional "view" (View.record group).codec (·.view) fun v r => { r with view := v },
    .optional "layout" (Layout.record group).codec (·.layout) fun v r => { r with layout := v },
    .optional "paragraph" Paragraph.record.codec (·.paragraph) fun v r => { r with paragraph := v },
    .optional "caption" Caption.record.codec (·.caption) fun v r => { r with caption := v },
    .optional "field" Field.record.codec (·.field) fun v r => { r with field := v }]

/-- Groups that hold other groups. -/
def Group.codecOver (group : Codec Group) : Codec Group where
  read written := do
    let parts ← (GroupParts.record group).codec.read written
    parts.toGroup
  write value := (GroupParts.record group).codec.write (.ofGroup value)

/-- The codec of groups up to a nesting. -/
def Group.codec : Nat → Codec Group
  | 0 => ⟨fun _ => .error .invalid, fun _ => .null⟩
  | n + 1 => Group.codecOver (Group.codec n)

/-- Reads by a codec of as many stages as the text is deep. -/
def Codec.readStaged {α : Type} (codec : Nat → Codec α) (written : Syntax) :
    Except DecodeError α :=
  (codec written.depth).read written

namespace View

/-- The codec of views whose groups have up to a nesting. -/
def codec (n : Nat) : Codec View := (View.record (Group.codec n)).codec

/-- Reads a view. -/
def read (written : Syntax) : Except DecodeError View := Codec.readStaged codec written

/-- Writes a view. -/
def write (view : View) : Json := (codec view.depth).write view

/-- Equality of views: they are written alike, up to equality of JSON values. -/
def same (a b : View) : Bool := a.write.same b.write

end View

namespace Group

/-- Reads a group. -/
def read (written : Syntax) : Except DecodeError Group := Codec.readStaged codec written

/-- Writes a group. -/
def write (group : Group) : Json := (codec group.depth).write group

end Group

namespace Layout

/-- Reads a layout. -/
def read (written : Syntax) : Except DecodeError Layout :=
  Codec.readStaged (fun n => (Layout.record (Group.codec n)).codec) written

/-- Writes a layout. -/
def write (layout : Layout) : Json :=
  (Layout.record (Group.codec layout.depth)).codec.write layout

end Layout

namespace Row

/-- Reads a row. -/
def read (written : Syntax) : Except DecodeError Row :=
  Codec.readStaged (fun n => (Row.record (Group.codec n)).codec) written

/-- Writes a row. -/
def write (row : Row) : Json :=
  (Row.record (Group.codec (Group.depthAll row.groups))).codec.write row

end Row

/-- Views, with as many stages as are needed on either side. -/
def View.anyDepth : Codec View := ⟨View.read, View.write⟩

/-- Groups, with as many stages as are needed on either side. -/
def Group.anyDepth : Codec Group := ⟨Group.read, Group.write⟩

/-- Layouts, with as many stages as are needed on either side. -/
def Layout.anyDepth : Codec Layout := ⟨Layout.read, Layout.write⟩

/-- Rows, with as many stages as are needed on either side. -/
def Row.anyDepth : Codec Row := ⟨Row.read, Row.write⟩

end CaseForm
