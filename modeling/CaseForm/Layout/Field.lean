import CaseForm.Layout.Control

/-!
Fields: the leaves of a layout document.
-/

namespace CaseForm

/-- A leaf that shows or edits one value. -/
structure Field where
  /-- The full path of the property; empty for a field that is bound to none. -/
  reference : String
  /-- The value that the server sent along. -/
  value : Json
  visible : Bool
  required : Bool
  readOnly : Bool
  disabled : Bool
  label : String
  showLabel : Bool
  labelReserveSpace : Bool
  /-- What the server found wrong with the value; empty for nothing. -/
  validationMessages : String
  name : String
  /-- The type of the property, such as a date with time. -/
  dataType : String
  control : Control
  deriving Repr, Inhabited

namespace Field

/-- Nothing is required; a field is visible unless it says otherwise. -/
def record : Record Field where
  blank :=
    ⟨"", .null, true, false, false, false, "", false, false, "", "", "", .undefined⟩
  slots := [
    .always "reference" .textOrNull (·.reference) fun v r => { r with reference := v },
    .always "value" .value (·.value) fun v r => { r with value := v },
    .always "visible" .flag (·.visible) fun v r => { r with visible := v },
    .always "required" .flag (·.required) fun v r => { r with required := v },
    .always "readOnly" .flag (·.readOnly) fun v r => { r with readOnly := v },
    .always "disabled" .flag (·.disabled) fun v r => { r with disabled := v },
    .always "label" .textOrNull (·.label) fun v r => { r with label := v },
    .always "showLabel" .flag (·.showLabel) fun v r => { r with showLabel := v },
    .always "labelReserveSpace" .flag (·.labelReserveSpace)
      fun v r => { r with labelReserveSpace := v },
    .always "validationMessages" .textOrNull (·.validationMessages)
      fun v r => { r with validationMessages := v },
    .always "name" .textOrNull (·.name) fun v r => { r with name := v },
    .always "type" .textOrNull (·.dataType) fun v r => { r with dataType := v },
    .always "control" Control.record.codec (·.control) fun v r => { r with control := v }]

/-- The first mode of the control, if it has one. -/
def mode? (field : Field) : Option Mode := field.control.modes.head?

/-- Whether the field is bound to a property. -/
def isBound (field : Field) : Bool := field.reference ≠ ""

end Field

end CaseForm
