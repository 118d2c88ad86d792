import CaseForm.Json.Printer
import CaseForm.Reference.Addressing
import CaseForm.Table
import CaseForm.Text.Cut

/-!
Property expressions: values in a layout document that may stand for others.

A text that begins with a quote is a literal, without its quotes; one that begins with a dot is a
relative reference into the edited values, `null` where nothing is recorded. Everything else
stands for itself.
-/

namespace CaseForm

/-- The value that a property expression stands for. -/
def resolveProperty (values : Table Json) (property : Json) : Json :=
  match property with
  | .str text =>
    match text.toList with
    | '"' :: _ => .str (Text.replace "\"" "" text)
    | '.' :: _ => (values.get? (expandRelative text)).getD .null
    | _ => property
  | _ => property

/-- The display text of what a property expression stands for. -/
def resolveText (values : Table Json) (property : Json) : String :=
  (resolveProperty values property).displayText

end CaseForm
