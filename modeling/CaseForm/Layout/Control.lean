import CaseForm.Layout.Binding

/-!
Controls: how a field is shown and edited, with the configuration of its modes.
-/

namespace CaseForm

/-- The kinds of control. -/
inductive ControlKind where
  | textInput
  | dropdown
  | checkbox
  | textArea
  | email
  | dateTime
  | integer
  | phone
  | displayText
  | hidden
  | button
  | label
  | link
  | icon
  | radioButtons
  | autoComplete
  | currency
  /-- The control without a name, for subscripted display values. -/
  | subscript
  /-- A kind that is not known, by its tag. -/
  | unsupported (tag : String)
  deriving DecidableEq, Repr, Inhabited

namespace ControlKind

/-- The tag that is written for a kind. -/
def tag : ControlKind → String
  | .textInput => "pxTextInput"
  | .dropdown => "pxDropdown"
  | .checkbox => "pxCheckbox"
  | .textArea => "pxTextArea"
  | .email => "pxEmail"
  | .dateTime => "pxDateTime"
  | .integer => "pxInteger"
  | .phone => "pxPhone"
  | .displayText => "pxDisplayText"
  | .hidden => "pxHidden"
  | .button => "pxButton"
  | .label => "label"
  | .link => "pxLink"
  | .icon => "pxIcon"
  | .radioButtons => "pxRadioButtons"
  | .autoComplete => "pxAutoComplete"
  | .currency => "pxCurrency"
  | .subscript => ""
  | .unsupported tag => tag

/-- The kind that a tag names. -/
def ofTag : String → ControlKind
  | "pxTextInput" => .textInput
  | "pxDropdown" => .dropdown
  | "pxCheckbox" => .checkbox
  | "pxTextArea" => .textArea
  | "pxEmail" => .email
  | "pxDateTime" => .dateTime
  | "pxInteger" => .integer
  | "pxPhone" => .phone
  | "pxDisplayText" => .displayText
  | "pxHidden" => .hidden
  | "pxButton" => .button
  | "label" => .label
  | "pxLink" => .link
  | "pxIcon" => .icon
  | "pxRadioButtons" => .radioButtons
  | "pxAutoComplete" => .autoComplete
  | "pxCurrency" => .currency
  | "" => .subscript
  | tag => .unsupported tag

/-- Kinds by their tags. -/
def codec : Codec ControlKind := .named ofTag tag

end ControlKind

/-- Where a list of options comes from. -/
inductive ListSource where
  | dataPage
  | constant
  | localList
  | text
  /-- A source that is not known, by its tag. -/
  | other (tag : String)
  deriving DecidableEq, Repr, Inhabited

namespace ListSource

/-- The tag that is written for a source. -/
def tag : ListSource → String
  | .dataPage => "datapage"
  | .constant => "constant"
  | .localList => "locallist"
  | .text => "Text"
  | .other tag => tag

/-- The source that a tag names. -/
def ofTag : String → ListSource
  | "datapage" => .dataPage
  | "constant" => .constant
  | "locallist" => .localList
  | "Text" => .text
  | tag => .other tag

/-- Sources by their tags. -/
def codec : Codec ListSource := .named ofTag tag

end ListSource

/-- Where an icon comes from. -/
inductive IconSource where
  | standard
  | image
  | externalUrl
  | property
  | styleClass
  /-- A source that is not known, by its tag. -/
  | other (tag : String)
  deriving DecidableEq, Repr, Inhabited

namespace IconSource

/-- The tag that is written for a source. -/
def tag : IconSource → String
  | .standard => "standardicon"
  | .image => "image"
  | .externalUrl => "exturl"
  | .property => "property"
  | .styleClass => "styleclass"
  | .other tag => tag

/-- The source that a tag names. -/
def ofTag : String → IconSource
  | "standardicon" => .standard
  | "image" => .image
  | "exturl" => .externalUrl
  | "property" => .property
  | "styleclass" => .styleClass
  | tag => .other tag

/-- Sources by their tags. -/
def codec : Codec IconSource := .named ofTag tag

end IconSource

/-- An option of a control that offers a choice. -/
structure ModeOption where
  key : String
  value : String
  deriving DecidableEq, Repr, Inhabited

/-- Only the key is required. -/
def ModeOption.record : Record ModeOption where
  blank := ⟨"", ""⟩
  slots := [
    .mandatory "key" .text (·.key) fun v r => { r with key := v },
    .always "value" .text (·.value) fun v r => { r with value := v }]

/-- The configuration of one mode of a control. Property expressions are `null` where there are
none. -/
structure Mode where
  options : List ModeOption
  listSource : Option ListSource
  placeholder : Json
  dataPageId : Option String
  dataPageValue : Option String
  dataPagePrompt : Option String
  linkData : Json
  linkImage : Option String
  linkImagePosition : Option String
  iconSource : Option IconSource
  iconStandard : Option String
  iconImage : Option String
  iconUrl : Option String
  iconProperty : Json
  iconStyle : Option String
  deriving Repr, Inhabited

/-- Nothing is required, and only the options are written where nothing is given. -/
def Mode.record : Record Mode where
  blank :=
    ⟨[], none, .null, none, none, none, .null, none, none, none, none, none, none, .null, none⟩
  slots := [
    .always "options" ModeOption.record.codec.list (·.options) fun v r => { r with options := v },
    .optional "listSource" ListSource.codec (·.listSource) fun v r => { r with listSource := v },
    .unlessNull "placeholder" (·.placeholder) fun v r => { r with placeholder := v },
    .optional "dataPageID" .text (·.dataPageId) fun v r => { r with dataPageId := v },
    .optional "dataPageValue" .text (·.dataPageValue) fun v r => { r with dataPageValue := v },
    .optional "dataPagePrompt" .text (·.dataPagePrompt) fun v r => { r with dataPagePrompt := v },
    .unlessNull "linkData" (·.linkData) fun v r => { r with linkData := v },
    .optional "linkImage" .text (·.linkImage) fun v r => { r with linkImage := v },
    .optional "linkImagePosition" .text (·.linkImagePosition)
      fun v r => { r with linkImagePosition := v },
    .optional "iconSource" IconSource.codec (·.iconSource) fun v r => { r with iconSource := v },
    .optional "iconStandard" .text (·.iconStandard) fun v r => { r with iconStandard := v },
    .optional "iconImage" .text (·.iconImage) fun v r => { r with iconImage := v },
    .optional "iconUrl" .text (·.iconUrl) fun v r => { r with iconUrl := v },
    .unlessNull "iconProperty" (·.iconProperty) fun v r => { r with iconProperty := v },
    .optional "iconStyle" .text (·.iconStyle) fun v r => { r with iconStyle := v }]

/-- A control: its kind, its own label, its modes and its bindings. -/
structure Control where
  kind : ControlKind
  /-- A property expression. -/
  label : Json
  modes : List Mode
  actionSets : List ActionSet
  deriving Repr, Inhabited

/-- The control of a field that names none. -/
def Control.undefined : Control := ⟨.unsupported "undefined", .null, [], []⟩

/-- Only the kind is required. -/
def Control.record : Record Control where
  blank := .undefined
  slots := [
    .mandatory "type" ControlKind.codec (·.kind) fun v r => { r with kind := v },
    .always "label" .value (·.label) fun v r => { r with label := v },
    .always "modes" Mode.record.codec.list (·.modes) fun v r => { r with modes := v },
    .always "actionSets" ActionSet.record.codec.list (·.actionSets)
      fun v r => { r with actionSets := v }]

end CaseForm
