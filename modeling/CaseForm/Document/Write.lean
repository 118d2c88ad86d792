import CaseForm.Layout.RepeatKind
import CaseForm.Reference.Addressing
import CaseForm.Table

/-!
Nested documents, and writing into them by reference.

A write walks from the root through the containers of a reference. It makes the containers that
are not there: pages and entries as empty objects, list elements by padding the list. A scalar in
the way of a container gives way to it, and a list in the way of a page or a group, or the other
way round, is a conflict of shapes. Every operation answers the document it leaves behind together
with its result, so what a failed one has changed can be stated.
-/

namespace CaseForm

/-- The shape in which a repeating structure stands in a document. -/
inductive Repeated where
  | rows (items : List Json)
  | entries (members : Entries Json)
  deriving Repr, Inhabited

namespace Repeated

/-- The structure as a value. -/
def toJson : Repeated → Json
  | .rows items => .arr items
  | .entries members => .obj members

/-- The structure of a kind without rows or entries. -/
def empty : RepeatKind → Repeated
  | .group => .entries []
  | .list => .rows []

end Repeated

/-- The members of an object; any other value has none. -/
def Json.members : Json → Entries Json
  | .obj members => members
  | _ => []

/-- The items of an array; any other value has none. -/
def Json.items : Json → List Json
  | .arr items => items
  | _ => []

/-- Appends a filler until the list has a length. -/
def padTo (length : Nat) (filler : Json) (rows : List Json) : List Json :=
  rows ++ List.replicate (length - rows.length) filler

namespace Document

/-- What an operation on the members of an object leaves behind, and its result. -/
abbrev Change (α : Type) := Entries Json × Except ReferenceError α

/-- Walks from the members of an object through containers, makes those that are missing, and
changes the members of the innermost one. -/
def walk {α : Type} (reference : String) (change : Entries Json → Change α) :
    List Segment → Entries Json → Change α
  | [], members => change members
  | .page name :: rest, members =>
    match (Entries.get? name members).getD .null with
    | .arr _ => (members, .error (.shapeConflict reference name))
    | found =>
      let inner := walk reference change rest found.members
      (Entries.set name (.obj inner.1) members, inner.2)
  | .listItem name index :: rest, members =>
    match (Entries.get? name members).getD .null with
    | .obj _ =>
      (members, .error (.shapeConflict reference (Segment.listItem name index).text))
    | found =>
      let rows := padTo (index + 1) (.obj []) found.items
      let inner := walk reference change rest (rows.getD index .null).members
      (Entries.set name (.arr (rows.set index (.obj inner.1))) members, inner.2)
  | .groupEntry name key :: rest, members =>
    match (Entries.get? name members).getD .null with
    | .arr _ =>
      (members, .error (.shapeConflict reference (Segment.groupEntry name key).text))
    | found =>
      let inner := walk reference change rest
        ((Entries.get? key found.members).getD .null).members
      (Entries.set name (.obj (Entries.set key (.obj inner.1) found.members)) members, inner.2)

/-- Whether a slot holds a container that a write leaves alone: any array, or an object with
members. An empty object is padding from earlier writes. -/
def occupied : Json → Bool
  | .obj members => !members.isEmpty
  | .arr _ => true
  | _ => false

/-- What a slot holds after a write. -/
def overwrite (value old : Json) : Json := if occupied old then old else value

/-- Writes a value at the last segment of a reference. -/
def assign (reference : String) (leaf : Segment) (value : Json) (members : Entries Json) :
    Change Unit :=
  match leaf with
  | .page name =>
    (Entries.set name (overwrite value ((Entries.get? name members).getD .null)) members, .ok ())
  | .listItem name index =>
    match (Entries.get? name members).getD .null with
    | .obj _ => (members, .error (.shapeConflict reference leaf.text))
    | found =>
      let rows := padTo (index + 1) .null found.items
      let row := overwrite value (rows.getD index .null)
      (Entries.set name (.arr (rows.set index row)) members, .ok ())
  | .groupEntry name key =>
    match (Entries.get? name members).getD .null with
    | .arr _ => (members, .error (.shapeConflict reference leaf.text))
    | found =>
      let entry := overwrite value ((Entries.get? key found.members).getD .null)
      (Entries.set name (.obj (Entries.set key entry found.members)) members, .ok ())

/-- Finds the repeating structure under a name and changes it. Where there is nothing or a scalar,
the structure is made. -/
def editRepeated {α : Type} (reference name : String) (kind : RepeatKind)
    (edit : Repeated → Repeated × α) (members : Entries Json) : Change α :=
  let store (r : Repeated × α) : Change α := (Entries.set name r.1.toJson members, .ok r.2)
  match kind, (Entries.get? name members).getD .null with
  | .group, .obj entries => store (edit (.entries entries))
  | .list, .arr rows => store (edit (.rows rows))
  | .group, .arr _ | .list, .obj _ => (members, .error (.shapeConflict reference name))
  | kind, _ => store (edit (.empty kind))

end Document

namespace Addressing

/-- Writes one value into a document, whose root becomes an object if it is none. -/
def write (addressing : Addressing) (reference : String) (value document : Json) :
    Json × Except ReferenceError Unit :=
  match addressing.parse reference with
  | .error e => (document, .error e)
  | .ok path =>
    let changed := Document.walk reference (Document.assign reference path.leaf value)
      path.containers document.members
    (.obj changed.1, changed.2)

/-- Changes the repeating structure that a reference with a plain last segment names. -/
def edit {α : Type} (addressing : Addressing) (reference : String) (kind : RepeatKind)
    (change : Repeated → Repeated × α) (document : Json) : Json × Except ReferenceError α :=
  match addressing.parse reference with
  | .error e => (document, .error e)
  | .ok ⟨containers, .page name⟩ =>
    let changed := Document.walk reference
      (Document.editRepeated reference name kind change) containers document.members
    (.obj changed.1, changed.2)
  | .ok ⟨_, leaf⟩ => (document, .error (.malformed reference leaf.text .notPlain))

/-- The repeating structure that a reference names, made where it is missing. -/
def locate (addressing : Addressing) (reference : String) (kind : RepeatKind) (document : Json) :
    Json × Except ReferenceError Repeated :=
  addressing.edit reference kind (fun found => (found, found)) document

/-- Writes entries one after another, up to the first that fails. -/
def writeAll (addressing : Addressing) :
    List (String × Json) → Json → Except ReferenceError Json
  | [], document => .ok document
  | (reference, value) :: entries, document =>
    match addressing.write reference value document with
    | (_, .error e) => .error e
    | (next, .ok ()) => addressing.writeAll entries next

/-- The nested document of a table, written in the order of its references. -/
def nest (addressing : Addressing) (values : Table Json) : Except ReferenceError Json :=
  addressing.writeAll values.entries (.obj [])

end Addressing

end CaseForm
