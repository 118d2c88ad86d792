import CaseForm.Layout.View
import CaseForm.Reference.Addressing

/-!
Row keys: which entry of a group a row of a grid stands for.

The references of the row's fields are asked in order; each answers with the subscript nearest to
its end, as it is written.
-/

namespace CaseForm

/-- The subscript of a segment, if the segment is well formed and has one. -/
def Segment.repeatSubscript? (reference part : String) : Option String :=
  match Segment.parse reference part with
  | .ok segment => if segment.isRepeat then Segment.subscript? part else none
  | .error _ => none

/-- The subscript nearest to the end of a reference. -/
def deepestSubscript? (reference : String) : Option String :=
  (referenceParts reference).reverse.findSome? (Segment.repeatSubscript? reference)

/-- The reference of a group that is a bound field. -/
def Group.boundReference? : Group → Option String
  | .field leaf => if leaf.isBound then some leaf.reference else none
  | _ => none

/-- The key of the entry that a row stands for. -/
def Row.groupKey? (row : Row) : Option String :=
  (row.groups.filterMap Group.boundReference?).findSome? deepestSubscript?

end CaseForm
