import CaseForm.Json.Basic

/-!
Written JSON: a value as it stands in a text, faults included.

A document is read from left to right, and a fault only matters once reading gets to it. So the
tree keeps what a text holds before its first fault, and marks faults in their places: `void` is
something that can be passed over but has no value (a text with half a surrogate pair, a number
out of range, nesting beyond the limit), and `cut` is where the text stops being JSON, so that it
cannot even be passed over. A member whose key cannot be read has none.
-/

namespace CaseForm

/-- A JSON text, read as far as it is one. -/
inductive Syntax where
  | null
  | bool (value : Bool)
  | num (value : Number)
  | str (value : String)
  | arr (items : List Syntax)
  | obj (members : List (Option String × Syntax))
  /-- Well formed, but without a value. -/
  | void
  /-- Here the text stops being JSON. -/
  | cut
  deriving Repr, Inhabited

namespace Syntax

mutual

/-- Whether the text goes on after the value, so that the value can be passed over. -/
def intact : Syntax → Bool
  | .arr items => intactItems items
  | .obj members => intactMembers members
  | .cut => false
  | _ => true

/-- Whether all values of a list are intact. -/
def intactItems : List Syntax → Bool
  | [] => true
  | item :: items => item.intact && intactItems items

/-- Whether the values of all members are intact. -/
def intactMembers : List (Option String × Syntax) → Bool
  | [] => true
  | (_, value) :: members => value.intact && intactMembers members

end

mutual

/-- Takes the value away from arrays and objects that lie more than `limit` deep. -/
def limitDepth : Nat → Syntax → Syntax
  | 0, .arr items => if intactItems items then .void else .cut
  | 0, .obj members => if intactMembers members then .void else .cut
  | limit + 1, .arr items => .arr (limitItems limit items)
  | limit + 1, .obj members => .obj (limitMembers limit members)
  | _, other => other

/-- `limitDepth` for each value of a list. -/
def limitItems (limit : Nat) : List Syntax → List Syntax
  | [] => []
  | item :: items => limitDepth limit item :: limitItems limit items

/-- `limitDepth` for the value of each member. -/
def limitMembers (limit : Nat) : List (Option String × Syntax) → List (Option String × Syntax)
  | [] => []
  | (key, value) :: members => (key, limitDepth limit value) :: limitMembers limit members

end

mutual

/-- How many arrays and objects lie inside one another. -/
def depth : Syntax → Nat
  | .arr items => depthItems items + 1
  | .obj members => depthMembers members + 1
  | _ => 0

/-- The greatest nesting among values. -/
def depthItems : List Syntax → Nat
  | [] => 0
  | item :: items => max item.depth (depthItems items)

/-- The greatest nesting among members. -/
def depthMembers : List (Option String × Syntax) → Nat
  | [] => 0
  | (_, value) :: members => max value.depth (depthMembers members)

end

mutual

/-- The value that the text stands for, if it has one. Of members with one key the last counts,
and members are put into key order. -/
def value? : Syntax → Option Json
  | .null => some .null
  | .bool value => some (.bool value)
  | .num value => some (.num value)
  | .str value => some (.str value)
  | .arr items => (itemValues? items).map .arr
  | .obj members => (memberValues? [] members).map .obj
  | .void | .cut => none

/-- The values of a list, if all have one. -/
def itemValues? : List Syntax → Option (List Json)
  | [] => some []
  | item :: items => do
    let first ← item.value?
    let rest ← itemValues? items
    return first :: rest

/-- The values of the members, written one after another over those before. -/
def memberValues? (before : Entries Json) : List (Option String × Syntax) → Option (Entries Json)
  | [] => some before
  | (none, _) :: _ => none
  | (some key, value) :: members => do
    let first ← value.value?
    memberValues? (Entries.set key first before) members

end

mutual

/-- A value as written text. -/
def ofJson : Json → Syntax
  | .null => .null
  | .bool value => .bool value
  | .num value => .num value
  | .str value => .str value
  | .arr items => .arr (ofItems items)
  | .obj members => .obj (ofMembers members)

/-- Values as written text. -/
def ofItems : List Json → List Syntax
  | [] => []
  | item :: items => ofJson item :: ofItems items

/-- Members as written text. -/
def ofMembers : List (String × Json) → List (Option String × Syntax)
  | [] => []
  | (key, value) :: members => (some key, ofJson value) :: ofMembers members

end

end Syntax

end CaseForm
