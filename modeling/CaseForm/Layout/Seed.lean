import CaseForm.Layout.View
import CaseForm.Table

/-!
Seeding: the values that a view brings along.

Every visible field that is bound to a property contributes the value that the server sent with
it. Whether the layouts around it are visible does not matter; a view that neither is visible nor
a page contributes nothing. Of two fields with one reference the later counts.
-/

namespace CaseForm

/-- The reference and value that a field contributes. -/
def Field.echo (field : Field) : List (String × Json) :=
  if field.visible && field.isBound then [(field.reference, field.value)] else []

mutual

/-- The references and values of a group, in document order. -/
def Group.echoes : Group → List (String × Json)
  | .view ⟨_, visible, groups, pageId⟩ =>
    if visible || pageId.isSome then Group.echoesAll groups else []
  | .layout ⟨_, _, _, groups, rows, view, _, _, _⟩ =>
    match rows with
    | some rows => Row.echoesAll rows
    | none =>
      match view with
      | some ⟨_, visible, inner, pageId⟩ =>
        if visible || pageId.isSome then Group.echoesAll inner else []
      | none =>
        match groups with
        | some groups => Group.echoesAll groups
        | none => []
  | .field leaf => leaf.echo
  | .paragraph _ | .caption _ | .unsupported => []

/-- The references and values of groups, in document order. -/
def Group.echoesAll : List Group → List (String × Json)
  | [] => []
  | group :: groups => group.echoes ++ Group.echoesAll groups

/-- The references and values of rows, in document order. -/
def Row.echoesAll : List Row → List (String × Json)
  | [] => []
  | ⟨groups⟩ :: rows => Group.echoesAll groups ++ Row.echoesAll rows

end

/-- The references and values of a view, in document order. -/
def View.echoes (view : View) : List (String × Json) :=
  if view.contributes then Group.echoesAll view.groups else []

/-- The table with which a form on the view begins. -/
def View.seed (view : View) : Table Json := Table.ofList view.echoes

end CaseForm
