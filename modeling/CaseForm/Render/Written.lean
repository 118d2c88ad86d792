import CaseForm.Json.Basic
import CaseForm.Render.Node

/-!
Render trees as JSON. What kind of thing an object stands for is its first member.
-/

namespace CaseForm

namespace Arrangement

/-- The written form of an arrangement. -/
def toJson : Arrangement → Json
  | .doubleColumn => .obj [("kind", .str "doubleColumn")]
  | .tripleColumn => .obj [("kind", .str "tripleColumn")]
  | .split left right => .obj [("kind", .str "split"), ("widths", .arr [.nat left, .nat right])]
  | .stacked => .obj [("kind", .str "stacked")]
  | .dynamic => .obj [("kind", .str "dynamic")]
  | .inlineMiddle => .obj [("kind", .str "inlineMiddle")]

end Arrangement

/-- The written form of a binding. -/
def RepeatBinding.toJson (binding : RepeatBinding) : Json :=
  .obj [("reference", .str binding.reference), ("kind", .str binding.kind.name)]

/-- What a page of data is named by. -/
def DataPageSource.members (source : DataPageSource) : List (String × Json) :=
  [("page_id", .str source.pageId), ("value_property", .str source.valueProperty),
    ("prompt_property", .str source.promptProperty)]

/-- The written form of a source of options. -/
def OptionSource.toJson : OptionSource → Json
  | .here options =>
    .obj [("kind", .str "local"), ("options", .arr (options.map ModeOption.record.codec.write))]
  | .dataPage source => .obj (("kind", .str "dataPage") :: source.members)

/-- The written form of a radio button. -/
def RadioOption.toJson (option : RadioOption) : Json :=
  .obj [("key", .str option.key), ("label", .str option.label), ("checked", .bool option.checked),
    ("disabled", .bool option.disabled)]

/-- The name of a position. -/
def ImagePosition.name : ImagePosition → String
  | .left => "left"
  | .right => "right"
  | .hidden => "hidden"

/-- The written form of the image of a link. -/
def LinkImage.toJson (image : LinkImage) : Json :=
  .obj [("file", .str image.file), ("position", .str image.position.name)]

/-- The written form of what an icon shows. -/
def Glyph.toJson : Glyph → Json
  | .named name => .obj [("source", .str "named"), ("name", .optStr name)]
  | .image file => .obj [("source", .str "image"), ("file", .str file)]
  | .url source => .obj [("source", .str "url"), ("src", .str source)]
  | .styleClass name => .obj [("source", .str "styleClass"), ("class", .str name)]
  | .undefined => .obj [("source", .str "undefined")]

/-- The kind of a widget and what it shows. -/
def Widget.members : Widget → List (String × Json)
  | .textInput value numeric placeholder =>
    [("control", .str "textInput"), ("value", .str value), ("numeric", .bool numeric),
      ("placeholder", .optStr placeholder)]
  | .textArea value placeholder =>
    [("control", .str "textArea"), ("value", .str value), ("placeholder", .optStr placeholder)]
  | .checkbox checked => [("control", .str "checkbox"), ("checked", .bool checked)]
  | .dropdown value placeholder source =>
    [("control", .str "dropdown"), ("value", .str value), ("placeholder", .optStr placeholder),
      ("source", source.toJson)]
  | .radioGroup options =>
    [("control", .str "radioGroup"), ("options", .arr (options.map RadioOption.toJson))]
  | .autoComplete value source =>
    [("control", .str "autoComplete"), ("value", .str value), ("source", .obj source.members)]
  | .datePicker date =>
    [("control", .str "datePicker"), ("date", .optStr (date.map Date.text))]
  | .button caption => [("control", .str "button"), ("caption", .str caption)]
  | .label text => [("control", .str "label"), ("text", .str text)]
  | .link text target image =>
    [("control", .str "link"), ("text", .str text), ("href", .str target),
      ("image", (image.map LinkImage.toJson).getD .null)]
  | .icon glyph => [("control", .str "icon"), ("glyph", glyph.toJson)]
  | .readOnly value => [("control", .str "readOnly"), ("value", .str value)]
  | .unsupported kind => [("control", .str "unsupported"), ("kind", .str kind)]

/-- The name of an event in JSON. -/
def TriggerEvent.name : TriggerEvent → String
  | .blur => "blur"
  | .click => "click"
  | .select => "select"
  | .change => "change"

/-- The written form of a trigger. -/
def Trigger.toJson (trigger : Trigger) : Json :=
  .obj [("event", .str trigger.event.name), ("handler", trigger.handler.toJson)]

/-- The members of a rendered field; its widget is one of them. -/
def FieldNode.members (node : FieldNode) : List (String × Json) :=
  [("reference", .str node.reference), ("name", .str node.name), ("label", .optStr node.label),
    ("required", .bool node.required), ("disabled", .bool node.disabled),
    ("read_only", .bool node.readOnly), ("control", .obj node.widget.members),
    ("trigger", (node.trigger.map Trigger.toJson).getD .null)]

namespace Node

mutual

/-- A tree as JSON. -/
def toJson : Node → Json
  | .view name divided children =>
    .obj [("node", .str "view"), ("name", .str name), ("divided", .bool divided),
      ("children", .arr (listJson children))]
  | .layout title arrangement children =>
    .obj [("node", .str "layout"), ("title", .optStr title), ("arrangement", arrangement.toJson),
      ("children", .arr (listJson children))]
  | .grid ⟨title, binding, header, rows, footerSpan, loading⟩ =>
    .obj [("node", .str "grid"), ("title", .optStr title),
      ("repeat", (binding.map RepeatBinding.toJson).getD .null),
      ("header", .arr (cellsJson header)), ("rows", .arr (rowsJson rows)),
      ("footer_span", .nat footerSpan), ("loading", .bool loading)]
  | .paragraph html => .obj [("node", .str "paragraph"), ("html", .str html)]
  | .caption text => .obj [("node", .str "caption"), ("text", .str text)]
  | .field leaf => .obj (("node", .str "field") :: leaf.members)
  | .annotated message child =>
    .obj [("node", .str "annotated"), ("message", .str message), ("child", child.toJson)]

/-- Several trees as JSON. -/
def listJson : List Node → List Json
  | [] => []
  | node :: nodes => node.toJson :: listJson nodes

/-- Cells as JSON. -/
def cellsJson : List (Option Node) → List Json
  | [] => []
  | none :: cells => .null :: cellsJson cells
  | some node :: cells => node.toJson :: cellsJson cells

/-- Rows as JSON. -/
def rowsJson : List GridRow → List Json
  | [] => []
  | ⟨key, cells⟩ :: rows =>
    .obj [("key", .optStr key), ("cells", .arr (cellsJson cells))] :: rowsJson rows

end

end Node

end CaseForm
