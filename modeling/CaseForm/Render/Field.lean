import CaseForm.Calendar.Elapsed
import CaseForm.Calendar.Print
import CaseForm.Json.Printer
import CaseForm.Render.Node
import CaseForm.Render.Renderer

/-!
Rendering a field: its widget, its label, its trigger, and what is wrong with its value.

Invisible fields and hidden controls show nothing. A control of an unknown kind shows a
placeholder, so views with controls from later versions still render. The only thing that can fail
is writing a date by a pattern that cannot write dates.
-/

namespace CaseForm

namespace Field

/-- The value being edited; nothing recorded and `null` count as the empty text. -/
def current (field : Field) (values : Table Json) : Json :=
  match values.get? field.reference with
  | none | some .null => .str ""
  | some value => value

/-- The label to show: none at all where labels are not shown, and a blank where none is given
but room is kept for it. -/
def shownLabel (field : Field) (showLabel : Bool) : Option String :=
  if !showLabel then none
  else if field.label = "" then if field.labelReserveSpace then some " " else none
  else some field.label

/-- What is wrong with the value: a message by its reference, or what the server said, as long as
the value is the one that the server sent. -/
def problem? (field : Field) (current : Json) (errors : ValidationErrors) : Option String :=
  match errors.get? field.reference with
  | some message => some message
  | none =>
    if field.validationMessages ≠ "" ∧ current.same field.value then
      some field.validationMessages
    else none

end Field

namespace Mode

/-- The page of data that the mode takes options from. -/
def dataPageSource (mode : Mode) : DataPageSource :=
  ⟨mode.dataPageId.getD "", mode.dataPageValue.getD "", mode.dataPagePrompt.getD ""⟩

/-- The image of a link, if the mode names one. -/
def linkImage? (mode : Mode) : Option LinkImage :=
  (nonEmpty? mode.linkImage).map fun file =>
    { file := file
      position := match mode.linkImagePosition with
        | some "left" => .left
        | some "right" => .right
        | _ => .hidden }

/-- The name of an icon in the icon font, for a style class of the server's font. -/
def fontClass (style : String) : String :=
  if Text.holds "pi" style then Text.replace "-" "_" (Text.replace "pi pi-" "" style) else style

/-- What the icon of a mode shows. -/
def glyph (mode : Mode) (icons : Table String) (values : Table Json) : Glyph :=
  match mode.iconSource with
  | some .standard => .named (mode.iconStandard.bind icons.get?)
  | some .image => .image (mode.iconImage.getD "")
  | some .externalUrl => .url (mode.iconUrl.getD "")
  | some .property => .url (resolveText values mode.iconProperty)
  | some .styleClass => .styleClass (fontClass (mode.iconStyle.getD ""))
  | some (.other _) | none => .undefined

end Mode

/-- The options of a group of radio buttons. -/
def radioOptions (field : Field) (chosen : String) : List RadioOption :=
  match field.mode? with
  | none => []
  | some mode => mode.options.map fun option =>
    ⟨option.key, option.value, option.key == chosen, field.disabled || field.readOnly⟩

/-- The placeholder of a dropdown: that of its mode, or its label. -/
def dropdownPlaceholder (field : Field) (label : Option String) (values : Table Json) :
    Option String :=
  match field.mode? with
  | none => label
  | some mode =>
    if mode.placeholder.isNull then label else some (resolveText values mode.placeholder)

/-- Where the options of a dropdown come from. -/
def dropdownSource (field : Field) : OptionSource :=
  match field.mode? with
  | none => .here []
  | some mode =>
    if mode.listSource == some .dataPage then .dataPage mode.dataPageSource else .here mode.options

/-- What a date that cannot be edited shows: the date as it is to be displayed, or the text as it
is where it is no date. -/
def displayedDate (settings : Settings) (text : String) : Except UnwritableDate String :=
  match Date.parse? settings.dateFormat text with
  | some date => date.write settings.displayDateFormat
  | none => .ok text

/-- The text of a value that is only displayed; a timestamp is put in words. -/
def displayedValue (field : Field) (now : Moment) : String :=
  let raw := field.value.displayText
  if field.dataType = "Date Time" then (elapsedText? raw now).getD raw else raw

/-- Whether a checkbox is checked. -/
def isChecked : Json → Bool
  | .bool checked => checked
  | .str text => text == "true"
  | _ => false

/-- The widget of a field, and the event by which it fires; none for a hidden control. -/
def Renderer.widget (renderer : Renderer) (field : Field) (context : RenderContext)
    (label : Option String) : Except UnwritableDate (Option (Widget × Option TriggerEvent)) :=
  let values := context.values
  let current := field.current values
  let text := current.displayText
  let shown (widget : Widget) (event : Option TriggerEvent) :
      Except UnwritableDate (Option (Widget × Option TriggerEvent)) := .ok (some (widget, event))
  let still (text : String) := shown (.readOnly text) none
  match field.control.kind with
  | .checkbox =>
    if field.readOnly then still (if isChecked current then "yes" else "no")
    else shown (.checkbox (isChecked current)) (some .change)
  | .radioButtons => shown (.radioGroup (radioOptions field text)) none
  | .autoComplete =>
    if field.readOnly then still text
    else shown (.autoComplete text ((field.mode?.map Mode.dataPageSource).getD ⟨"", "", ""⟩))
      (some .select)
  | .dropdown =>
    if field.readOnly then still text
    else shown (.dropdown text (dropdownPlaceholder field label values) (dropdownSource field))
      (some .blur)
  | .email | .phone | .textInput =>
    if field.readOnly then still text else shown (.textInput text false label) (some .blur)
  | .integer | .currency =>
    if field.readOnly then still text else shown (.textInput text true label) (some .blur)
  | .textArea =>
    if field.readOnly then still text else shown (.textArea text label) (some .blur)
  | .displayText => still (displayedValue field context.now)
  | .dateTime =>
    if field.readOnly then (displayedDate renderer.settings text).bind still
    else shown (.datePicker (Date.parse? renderer.settings.dateFormat text)) none
  | .button => shown (.button (resolveText values field.control.label)) (some .click)
  | .label => shown (.label (label.getD "")) none
  | .link =>
    let target := match field.mode? with
      | some mode => resolveText values mode.linkData
      | none => ""
    shown (.link (resolveText values field.control.label) target (field.mode?.bind Mode.linkImage?))
      (if target = "" then some .click else none)
  | .icon =>
    shown (.icon (match field.mode? with
      | some mode => mode.glyph renderer.icons values
      | none => .undefined)) (some .click)
  | .subscript => still text
  | .hidden => .ok none
  | .unsupported kind => shown (.unsupported kind) none

/-- The trigger of a field, if it fires and has anything to do. -/
def Field.trigger? (field : Field) (event : Option TriggerEvent) : Option Trigger :=
  match event with
  | none => none
  | some event => if field.handler.isInert then none else some ⟨event, field.handler⟩

/-- Whether a control shows its label only where the field asks for it. -/
def ControlKind.labelsItself : ControlKind → Bool
  | .button | .link | .icon => true
  | _ => false

/-- Renders a field. -/
def Renderer.field (renderer : Renderer) (field : Field) (context : RenderContext)
    (showLabel : Bool) : Except UnwritableDate (Option Node) :=
  if !field.visible then .ok none
  else do
    let label := field.shownLabel showLabel
    match ← renderer.widget field context label with
    | none => return none
    | some (widget, event) =>
      let kind := field.control.kind
      let node : Node := .field
        { reference := field.reference
          name := field.name
          label := if kind.labelsItself && !field.showLabel then none else label
          required := field.required
          disabled := field.disabled || (field.readOnly && kind == .button)
          readOnly := field.readOnly
          widget := widget
          trigger := field.trigger? event }
      match field.problem? (field.current context.values) context.errors with
      | some message => return some (.annotated message node)
      | none => return some node

end CaseForm
