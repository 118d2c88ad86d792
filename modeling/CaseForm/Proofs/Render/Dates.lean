import CaseForm.Proofs.Calendar.FixedWidth
import CaseForm.Proofs.Form.Running
import CaseForm.Proofs.Render.Problems

/-!
Dates that have been edited, as they are shown.

A form stores a date as a text, by the pattern of its settings for stored dates, and a field reads
that pattern when it is rendered. Under the default settings the text has no separators; that it is
read back rests on the width of its numbers (`Date.parse?_compact`).

* `edited_date_shown`: what a field for dates shows after an edit.
-/

namespace CaseForm

namespace Renderer

variable {renderer : Renderer} {field : Field} {context : RenderContext} {showLabel : Bool}
  {date : Date}

/-- The field is drawn as a leaf with the widget, whatever is said of its value. -/
def Shows (renderer : Renderer) (field : Field) (context : RenderContext) (showLabel : Bool)
    (widget : Widget) : Prop :=
  ∃ message leaf,
    renderer.field field context showLabel = .ok (some (Node.noting message (.field leaf))) ∧
      leaf.reference = field.reference ∧ leaf.widget = widget

theorem shows_of_widget {widget : Widget} {event : Option TriggerEvent}
    (visible : field.visible = true)
    (drawn : renderer.widget field context (field.shownLabel showLabel) =
      .ok (some (widget, event))) :
    renderer.Shows field context showLabel widget := by
  refine ⟨field.problem? (field.current context.values) context.errors,
    field.leaf showLabel (widget, event), ?_, rfl, rfl⟩
  rw [field_of_visible visible, drawn]
  rfl

theorem displayText_current {text : String}
    (stored : context.values.get? field.reference = some (.str text)) :
    (field.current context.values).displayText = text := by
  rw [Field.current, stored]
  rfl

section Stored

variable (standard : renderer.settings = {}) (four : date.FourDigits)
  (visible : field.visible = true) (kind : field.control.kind = .dateTime)
  (stored : context.values.get? field.reference = some (.str (String.ofList date.compact)))

include standard four visible kind stored

/-- A date that is stored is picked in a field that can be edited. -/
theorem shows_picked (editable : field.readOnly = false) :
    renderer.Shows field context showLabel (.datePicker (some date)) := by
  apply shows_of_widget visible
  have read :
      Date.parse? renderer.settings.dateFormat (String.ofList date.compact) = some date := by
    rw [standard]
    exact Date.parse?_compact four
  simp only [widget, kind, editable, displayText_current stored, read]
  rfl

/-- A date that is stored is displayed with slashes in a field that cannot be edited. -/
theorem shows_displayed (fixed : field.readOnly = true) :
    renderer.Shows field context showLabel (.readOnly (String.ofList date.slashed)) := by
  apply shows_of_widget visible
  have shown : displayedDate renderer.settings (String.ofList date.compact) =
      .ok (String.ofList date.slashed) := by
    rw [displayedDate, standard, Date.parse?_compact four]
    exact Date.write_slashed four
  simp only [widget, kind, fixed, displayText_current stored, shown]
  rfl

end Stored

end Renderer

/-- Dates are read back as they are stored. Let an open form have the default settings and any
edited values, and let a date with a year from 0 to 9999 be entered in a visible field for dates
that can be edited. Then the field picks exactly that date whenever it is rendered with the values
that the form has afterwards, and if it could not be edited, it would display the month, the day and
the year of that date in two, two and four digits with slashes between them. -/
theorem edited_date_shown {s : Situation} {field : Field} {date : Date}
    (standard : s.form.renderer.settings = {}) (alive : s.form.alive = true)
    (four : date.FourDigits) (visible : field.visible = true)
    (kind : field.control.kind = .dateTime) (editable : field.readOnly = false) :
    ∃ later, Run.edit field.reference (.date date) s = .ok () later ∧
      ∀ (context : RenderContext) (showLabel : Bool), context.values = later.form.values →
        later.form.renderer.Shows field context showLabel (.datePicker (some date)) ∧
        later.form.renderer.Shows { field with readOnly := true } context showLabel
          (.readOnly (String.ofList date.slashed)) := by
  have written : (FieldInput.date date).value s.form.renderer.settings.dateFormat =
      .ok (.str (String.ofList date.compact)) := by
    rw [standard]
    change (date.write "%Y%m%d").map Json.str = _
    rw [Date.write_compact four]
    rfl
  refine ⟨_, Run.edit_eq_ok_iff.2 ⟨alive, _, written, rfl⟩, ?_⟩
  intro context showLabel values
  have stored :
      context.values.get? field.reference = some (.str (String.ofList date.compact)) := by
    rw [values, Table.get?_insert, if_pos rfl]
  exact ⟨Renderer.shows_picked standard four visible kind stored editable,
    Renderer.shows_displayed standard four visible kind stored rfl⟩

/-- A field for dates that can be edited. -/
def dueField : Field :=
  { Field.record.blank with
    reference := "Due"
    visible := true
    control := { Control.record.blank with kind := .dateTime } }

/-- A form with a date to enter. -/
def openDue : Situation where
  form := Form.build (.ofSettings {}) {} (.start "" "")
    (.assignment ⟨"C", "A", "B", none⟩ ⟨"V", true, [.field dueField], none⟩)
  surroundings := {}

/-- The last day of February in the year 4. -/
def leapDay : Date := ⟨4, 2, 29, by decide⟩

/-- A leap day is entered, picked and displayed, with zeros before its year and its month. -/
theorem leap_day_shown :
    ∃ later, Run.edit "Due" (.date leapDay) openDue = .ok () later ∧
      ∀ (context : RenderContext) (showLabel : Bool), context.values = later.form.values →
        later.form.renderer.Shows dueField context showLabel (.datePicker (some leapDay)) ∧
        later.form.renderer.Shows { dueField with readOnly := true } context showLabel
          (.readOnly "02/29/0004") := by
  have slashed : String.ofList leapDay.slashed = "02/29/0004" := by decide
  rw [← slashed]
  exact @edited_date_shown openDue dueField leapDay rfl rfl (by decide) rfl rfl rfl

end CaseForm
