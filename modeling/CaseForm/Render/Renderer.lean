import CaseForm.Calendar.Moment
import CaseForm.Settings
import CaseForm.Table
import CaseForm.Validation

/-!
What a rendering depends on, besides the view: settings and icons, which stay, and the state of the
form at a moment.
-/

namespace CaseForm

/-- The standard icons and the names they have in the icon font. -/
def standardIcons : List (String × String) := [
  ("pxIconAddItem", "plus circle"),
  ("pxIconAddNewWork", "rocket"),
  ("pxIconAttachments", "paperclip"),
  ("pxCancel", "cancel"),
  ("pxIconContents", "eye"),
  ("pxIconDeleteItem", "trash"),
  ("pxIconEnableActionSection", "rocket"),
  ("pxIconExpandCollapse", "plus square outline"),
  ("pxIconExplore", "setting"),
  ("pxIconFinishAssignment", "rocket"),
  ("pxIconGetNextWork", "rocket"),
  ("pxIconHistory", "history"),
  ("pxIconLocalAction", "rocket"),
  ("pxIconPrint", "print"),
  ("pxIconReopenWorkItem", "share"),
  ("pxIconReview", "rocket"),
  ("pxIconSave", "check square outline"),
  ("pxIconShowFlowLocation", "map marker alternate"),
  ("pxIconShowHarness", "rocket"),
  ("pxIconShowReopenScreen", "reply"),
  ("pxIconSpellChecker", "checkmark box"),
  ("pxIconUpdate", "setting")]

/-- Settings and icons. -/
structure Renderer where
  settings : Settings
  /-- The names of standard icons in the icon font. -/
  icons : Table String

namespace Renderer

/-- A renderer with the standard icons. -/
def ofSettings (settings : Settings) : Renderer := ⟨settings, Table.ofList standardIcons⟩

/-- Names an icon, in place of any name that it had. -/
def withIcon (renderer : Renderer) (standard name : String) : Renderer :=
  { renderer with icons := renderer.icons.insert standard name }

end Renderer

/-- The state of a form at a moment, as far as it shows. -/
structure RenderContext where
  values : Table Json
  errors : ValidationErrors
  /-- The references of repeating structures with a change on its way. -/
  loading : TextSet
  now : Moment

end CaseForm
