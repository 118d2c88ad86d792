import CaseForm.Codec

/-!
The two shapes of repeating structures.
-/

namespace CaseForm

/-- The shape of a repeating structure. -/
inductive RepeatKind where
  /-- Entries under keys. -/
  | group
  /-- Rows in sequence. -/
  | list
  deriving DecidableEq, Repr, Inhabited

namespace RepeatKind

/-- The name of a shape. -/
def name : RepeatKind → String
  | .group => "Group"
  | .list => "List"

/-- The shape of a name. -/
def ofName? : String → Option RepeatKind
  | "Group" => some .group
  | "List" => some .list
  | _ => none

/-- A shape is written as its name; the name with `null` as its only member is read too. -/
def codec : Codec RepeatKind where
  read
    | .str name | .obj [(some name, .null)] =>
      match ofName? name with
      | some kind => .ok kind
      | none => .error .invalid
    | _ => .error .invalid
  write kind := .str kind.name

end RepeatKind

end CaseForm
