import CaseForm.Json.Basic
import CaseForm.Table

/-!
Flattening: the scalars of a nested document under their references.

Arrays become positions from one, objects become plain pages. Empty arrays and objects hold no
scalar and leave no trace.
-/

namespace CaseForm

namespace Json

mutual

/-- The scalars of a value, each under the path that leads to it. -/
def leaves (path : String) : Json → List (String × Json)
  | .obj members => memberLeaves path members
  | .arr items => itemLeaves path 1 items
  | scalar => [(path, scalar)]

/-- The scalars of members, below a path. -/
def memberLeaves (path : String) : List (String × Json) → List (String × Json)
  | [] => []
  | (key, value) :: members =>
    value.leaves (path ++ "." ++ key) ++ memberLeaves path members

/-- The scalars of items, below a path and from a position on. -/
def itemLeaves (path : String) (position : Nat) : List Json → List (String × Json)
  | [] => []
  | item :: items =>
    item.leaves (path ++ "(" ++ toString position ++ ")") ++ itemLeaves path (position + 1) items

end

/-- The scalars of the members of a root. -/
def rootLeaves : List (String × Json) → List (String × Json)
  | [] => []
  | (key, value) :: members => value.leaves key ++ rootLeaves members

/-- The table of the scalars of a document. -/
def flatten : Json → Table Json
  | .obj members => Table.ofList (rootLeaves members)
  | _ => .empty

end Json

end CaseForm
