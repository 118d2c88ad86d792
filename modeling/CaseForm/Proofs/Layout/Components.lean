import CaseForm.Layout.ViewCodec
import CaseForm.Proofs.Codec.Composition

/-!
The components of a layout document.

Every record type of a layout document is composed of its slots, in the order that it declares them.
Below groups all of them are steady: the tags of a name read back as the name, although some names
have several tags (`ActionKind.ofTag_tag`), and what a record does not give is as its blank record
has it.
-/

namespace CaseForm

/-! ### Tags -/

/-- A kind that was read from a tag is named by the tag that is written for it. A tag that names no
known kind is kept as it is. -/
theorem ActionKind.ofTag_tag (text : String) : ofTag (ofTag text).tag = ofTag text := by
  fun_cases ofTag text
  case case8 => rw [tag, ofTag] <;> assumption
  all_goals rfl

theorem ControlKind.ofTag_tag (text : String) : ofTag (ofTag text).tag = ofTag text := by
  fun_cases ofTag text
  case case19 => rw [tag, ofTag] <;> assumption
  all_goals rfl

theorem ListSource.ofTag_tag (text : String) : ofTag (ofTag text).tag = ofTag text := by
  fun_cases ofTag text
  case case5 => rw [tag, ofTag] <;> assumption
  all_goals rfl

theorem IconSource.ofTag_tag (text : String) : ofTag (ofTag text).tag = ofTag text := by
  fun_cases ofTag text
  case case6 => rw [tag, ofTag] <;> assumption
  all_goals rfl

theorem GroupFormat.ofTag_tag (text : String) : ofTag (ofTag text).tag = ofTag text := by
  fun_cases ofTag text
  case case9 => rw [tag, ofTag] <;> assumption
  all_goals rfl

@[simp] theorem ActionKind.steady_codec : ActionKind.codec.Steady := Codec.steady_named ofTag_tag

@[simp] theorem ControlKind.steady_codec : ControlKind.codec.Steady := Codec.steady_named ofTag_tag

@[simp] theorem ListSource.steady_codec : ListSource.codec.Steady := Codec.steady_named ofTag_tag

@[simp] theorem IconSource.steady_codec : IconSource.codec.Steady := Codec.steady_named ofTag_tag

@[simp] theorem GroupFormat.steady_codec : GroupFormat.codec.Steady :=
  Codec.steady_named ofTag_tag

/-- Without a format, a layout has one that is not known, and without a tag. -/
@[simp] theorem GroupFormat.rereads_untagged : GroupFormat.codec.Rereads (.unrecognized "") :=
  Codec.rereads_named rfl

@[simp] theorem ListSource.solid_codec : ListSource.codec.Solid := Codec.solid_named ofTag tag

@[simp] theorem IconSource.solid_codec : IconSource.codec.Solid := Codec.solid_named ofTag tag

/-! ### Bindings -/

def SetValuePair.composition : Composition SetValuePair.record where
  components := [.mandatory "name" .text _ _, .always "value" .value _ _]
  omits := by simp

@[simp] theorem SetValuePair.steady : SetValuePair.record.codec.Steady :=
  SetValuePair.composition.steady
    (by simp [composition, record, Component.Settled]) (by simp [composition])

def ScriptParameter.composition : Composition ScriptParameter.record where
  components := [.always "name" .text _ _, .always "value" .value _ _]
  omits := by simp

@[simp] theorem ScriptParameter.steady : ScriptParameter.record.codec.Steady :=
  ScriptParameter.composition.steady
    (by simp [composition, record, Component.Settled]) (by simp [composition])

def ActionParameters.composition : Composition ActionParameters.record where
  components := [.unlessEmpty "setValuePairs" SetValuePair.record.codec _ _,
    .optional "actionName" .text _ _, .optional "functionName" .text _ _,
    .unlessEmpty "functionParameters" ScriptParameter.record.codec _ _, .unlessNull "urlBase" _ _,
    .optional "windowName" .text _ _, .optional "windowOptions" .text _ _]
  omits := by simp [record, blank]

@[simp] theorem ActionParameters.steady : ActionParameters.record.codec.Steady :=
  ActionParameters.composition.steady
    (by simp [composition, record, blank, Component.Settled]) (by simp [composition])

/-- Parameters of which none is given are written without any, and read again. -/
@[simp] theorem ActionParameters.rereads_blank :
    ActionParameters.record.codec.Rereads .blank :=
  ActionParameters.composition.rereads (by simp [composition, blank, Component.Settled])

def Action.composition : Composition Action.record where
  components := [.mandatory "action" ActionKind.codec _ _,
    .always "actionProcess" ActionParameters.record.codec _ _]
  omits := by simp

@[simp] theorem ActionKind.rereads_unnamed : ActionKind.codec.Rereads (.other "") :=
  Codec.rereads_named rfl

@[simp] theorem Action.steady : Action.record.codec.Steady :=
  Action.composition.steady
    (by simp [composition, record, Component.Settled]) (by simp [composition])

def EventBinding.composition : Composition EventBinding.record where
  components := [.mandatory "event" .text _ _]
  omits := by simp

@[simp] theorem EventBinding.steady : EventBinding.record.codec.Steady :=
  EventBinding.composition.steady
    (by simp [composition, Component.Settled]) (by simp [composition])

def ActionSet.composition : Composition ActionSet.record where
  components := [.always "actions" Action.record.codec.list _ _,
    .always "events" EventBinding.record.codec.list _ _]
  omits := by simp

@[simp] theorem ActionSet.steady : ActionSet.record.codec.Steady :=
  ActionSet.composition.steady
    (by simp [composition, record, Component.Settled]) (by simp [composition])

/-! ### Controls -/

def ModeOption.composition : Composition ModeOption.record where
  components := [.mandatory "key" .text _ _, .always "value" .text _ _]
  omits := by simp

@[simp] theorem ModeOption.steady : ModeOption.record.codec.Steady :=
  ModeOption.composition.steady
    (by simp [composition, Component.Settled]) (by simp [composition])

def Mode.composition : Composition Mode.record where
  components := [.always "options" ModeOption.record.codec.list _ _,
    .optional "listSource" ListSource.codec _ _, .unlessNull "placeholder" _ _,
    .optional "dataPageID" .text _ _, .optional "dataPageValue" .text _ _,
    .optional "dataPagePrompt" .text _ _, .unlessNull "linkData" _ _,
    .optional "linkImage" .text _ _, .optional "linkImagePosition" .text _ _,
    .optional "iconSource" IconSource.codec _ _, .optional "iconStandard" .text _ _,
    .optional "iconImage" .text _ _, .optional "iconUrl" .text _ _,
    .unlessNull "iconProperty" _ _, .optional "iconStyle" .text _ _]
  omits := by simp [record]

@[simp] theorem Mode.steady : Mode.record.codec.Steady :=
  Mode.composition.steady
    (by simp [composition, record, Component.Settled]) (by simp [composition])

def Control.composition : Composition Control.record where
  components := [.mandatory "type" ControlKind.codec _ _, .always "label" .value _ _,
    .always "modes" Mode.record.codec.list _ _,
    .always "actionSets" ActionSet.record.codec.list _ _]
  omits := by simp

@[simp] theorem ControlKind.rereads_undefined :
    ControlKind.codec.Rereads (.unsupported "undefined") := Codec.rereads_named rfl

@[simp] theorem Control.steady : Control.record.codec.Steady :=
  Control.composition.steady
    (by simp [composition, record, undefined, Component.Settled]) (by simp [composition])

/-- The control of a field that names none is written with its kind, and read again. -/
@[simp] theorem Control.rereads_undefined : Control.record.codec.Rereads .undefined :=
  Control.composition.rereads (by simp [composition, undefined, Component.Settled])

/-! ### Leaves -/

def Field.composition : Composition Field.record where
  components := [.always "reference" .textOrNull _ _, .always "value" .value _ _,
    .always "visible" .flag _ _, .always "required" .flag _ _, .always "readOnly" .flag _ _,
    .always "disabled" .flag _ _, .always "label" .textOrNull _ _,
    .always "showLabel" .flag _ _, .always "labelReserveSpace" .flag _ _,
    .always "validationMessages" .textOrNull _ _, .always "name" .textOrNull _ _,
    .always "type" .textOrNull _ _, .always "control" Control.record.codec _ _]
  omits := by simp

@[simp] theorem Field.steady : Field.record.codec.Steady :=
  Field.composition.steady
    (by simp [composition, record, Component.Settled]) (by simp [composition])

def Paragraph.composition : Composition Paragraph.record where
  components := [.always "value" .textOrNull _ _, .always "visible" .flag _ _]
  omits := by simp

@[simp] theorem Paragraph.steady : Paragraph.record.codec.Steady :=
  Paragraph.composition.steady
    (by simp [composition, Component.Settled]) (by simp [composition])

def Caption.composition : Composition Caption.record where
  components := [.always "value" .textOrNull _ _]
  omits := by simp

@[simp] theorem Caption.steady : Caption.record.codec.Steady :=
  Caption.composition.steady
    (by simp [composition, Component.Settled]) (by simp [composition])

/-! ### Records of groups -/

section Groups

variable (group : Codec Group)

def Row.composition : Composition (Row.record group) where
  components := [.always "groups" group.list _ _]
  omits := by simp

def View.composition : Composition (View.record group) where
  components := [.always "name" .textOrNull _ _, .always "visible" .flag _ _,
    .always "groups" group.list _ _, .optional "pageID" .text _ _]
  omits := by simp [record]

def Layout.composition : Composition (Layout.record group) where
  components := [.optional "title" .text _ _, .always "visible" .flag _ _,
    .always "groupFormat" GroupFormat.codec _ _, .optional "groups" group.list _ _,
    .optional "rows" (Row.record group).codec.list _ _,
    .optional "view" (View.record group).codec _ _, .optional "reference" .text _ _,
    .optional "referenceType" RepeatKind.codec _ _,
    .optional "header" (Row.record group).codec _ _]
  omits := by simp [record]

def GroupParts.composition : Composition (GroupParts.record group) where
  components := [.optional "view" (View.record group).codec _ _,
    .optional "layout" (Layout.record group).codec _ _,
    .optional "paragraph" Paragraph.record.codec _ _,
    .optional "caption" Caption.record.codec _ _, .optional "field" Field.record.codec _ _]
  omits := by simp [record, none]

variable {group} (inner : group.Steady)

include inner

theorem Row.steady : (Row.record group).codec.Steady :=
  (Row.composition group).steady
    (by simp [composition, record, Component.Settled]) (by simp [composition, inner])

theorem View.steady : (View.record group).codec.Steady :=
  (View.composition group).steady
    (by simp [composition, record, Component.Settled]) (by simp [composition, inner])

theorem Layout.steady : (Layout.record group).codec.Steady :=
  (Layout.composition group).steady
    (by simp [composition, record, Component.Settled])
    (by simp [composition, inner, Row.steady inner, View.steady inner])

theorem GroupParts.steady : (GroupParts.record group).codec.Steady :=
  (GroupParts.composition group).steady
    (by simp [composition, record, none, Component.Settled])
    (by simp [composition, View.steady inner, Layout.steady inner])

end Groups

end CaseForm
