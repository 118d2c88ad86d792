import CaseForm.Codec

/-!
Settings that references, rendering and forms share. Each has a default, so the empty object is a
valid document of settings.
-/

namespace CaseForm

/-- The settings of a form. -/
structure Settings where
  /-- The marker of the root page; it never stands in a nested document. -/
  rootPage : String := "pyWorkPage"
  /-- What is put before a URL that does not begin with `http`. -/
  defaultUrlScheme : String := "http://"
  /-- The pattern in which edited dates are stored. -/
  dateFormat : String := "%Y%m%d"
  /-- The pattern in which dates are shown that cannot be edited. -/
  displayDateFormat : String := "%m/%d/%Y"
  /-- The highest position in a list that a reference may address. -/
  maxListIndex : Nat := 10000
  deriving DecidableEq, Repr, Inhabited

/-- Every setting is written, and none is required. -/
def Settings.record : Record Settings where
  blank := {}
  slots := [
    .always "rootPage" .text (·.rootPage) fun v r => { r with rootPage := v },
    .always "defaultUrlScheme" .text (·.defaultUrlScheme)
      fun v r => { r with defaultUrlScheme := v },
    .always "dateFormat" .text (·.dateFormat) fun v r => { r with dateFormat := v },
    .always "displayDateFormat" .text (·.displayDateFormat)
      fun v r => { r with displayDateFormat := v },
    .always "maxListIndex" .natural (·.maxListIndex) fun v r => { r with maxListIndex := v }]

end CaseForm
