import CaseForm.Handler.Step
import CaseForm.Table
import CaseForm.Text.Quote

/-!
Scripts: functions that the surroundings register and actions call by name.

A script is never made from text: an action reaches only what has been registered.
-/

namespace CaseForm

/-- A function on resolved arguments, which fails with a message. -/
abbrev Script := List Json → Except String Unit

/-- The registered scripts. -/
abbrev Scripts := Table Script

namespace Scripts

/-- Calls a script. -/
def invoke (scripts : Scripts) (name : String) (arguments : List Json) : Except ActionError Unit :=
  match scripts.get? name with
  | none => .error (.unregisteredScript name)
  | some script =>
    match script arguments with
    | .ok () => .ok ()
    | .error message => .error (.scriptFailed name message)

/-- A line that names the registered scripts. -/
def summary (scripts : Scripts) : String :=
  "ScriptRegistry \x7b scripts: [" ++ ", ".intercalate (scripts.keys.map Text.quote) ++ "] \x7d"

end Scripts

end CaseForm
