import CaseForm.Document.Write

/-!
Blank rows: what is added to a repeating structure.

A new row has the shape of the first one, with every scalar blank and every inner list cut down to
one row. A list keeps its last row, and a group keeps the entries that it has.
-/

namespace CaseForm

namespace Json

mutual

/-- The shape of a value without its content: scalars become the empty text, and lists keep a
blank form of their first item. -/
def blank : Json → Json
  | .obj members => .obj (blankMembers members)
  | .arr [] => .arr []
  | .arr (item :: _) => .arr [item.blank]
  | _ => .str ""

/-- The shapes of members. -/
def blankMembers : List (String × Json) → List (String × Json)
  | [] => []
  | (key, value) :: members => (key, value.blank) :: blankMembers members

end

end Json

namespace Repeated

/-- The first row or entry. -/
def first? : Repeated → Option Json
  | .rows items => items.head?
  | .entries members => members.head?.map (·.2)

/-- The blank form of the first row or entry; the empty object where there is none. -/
def template (r : Repeated) : Json := (r.first?.map Json.blank).getD (.obj [])

/-- Appends a blank row to a list. -/
def pushBlank (rows : List Json) : List Json := rows ++ [(Repeated.rows rows).template]

/-- Removes the last row of a list unless it is the only one, and whether it did. -/
def popRow (rows : List Json) : List Json × Bool :=
  if 1 < rows.length then (rows.dropLast, true) else (rows, false)

/-- Adds a blank entry to a group unless the key is there, and whether it did. -/
def insertBlank (key : String) (entries : Entries Json) : Entries Json × Bool :=
  if Entries.contains key entries then (entries, false)
  else (Entries.set key (Repeated.entries entries).template entries, true)

/-- Removes an entry of a group, and whether there was one. -/
def removeEntry (key : String) (entries : Entries Json) : Entries Json × Bool :=
  (Entries.erase key entries, Entries.contains key entries)

end Repeated

/-- The blank row of a container; a value that is none has the empty object. -/
def Json.blankRow : Json → Json
  | .arr rows => (Repeated.rows rows).template
  | .obj entries => (Repeated.entries entries).template
  | _ => .obj []

end CaseForm
