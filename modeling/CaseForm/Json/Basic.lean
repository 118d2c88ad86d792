import CaseForm.Entries

/-!
JSON values.

A number is an integer or a binary64 number, and the two are never equal: `1` is not `1.0`.
Objects are lists of members; the members of every object that was read or written by this library
stand in key order (`Json.Ordered`), so equality of values does not depend on how they were built.
-/

namespace CaseForm

/-- A JSON number: an integer, or a finite binary64 number by its bit pattern. -/
inductive Number where
  | int (value : Int)
  | real (bits : UInt64)
  deriving DecidableEq, Repr, Inhabited

/-- The number given by a floating-point value. -/
def Number.ofFloat (value : Float) : Number := .real value.toBits

/-- Whether a bit pattern is one of the two zeros. -/
def Number.isZeroPattern (bits : UInt64) : Bool := bits == 0 || bits == 0x8000000000000000

/-- Equality as numbers of one kind: the two zeros of binary64 are equal. -/
def Number.same : Number → Number → Bool
  | .int a, .int b => a == b
  | .real a, .real b => a == b || (isZeroPattern a && isZeroPattern b)
  | _, _ => false

/-- A JSON value. -/
inductive Json where
  | null
  | bool (value : Bool)
  | num (value : Number)
  | str (value : String)
  | arr (items : List Json)
  | obj (members : List (String × Json))
  deriving Repr, Inhabited

namespace Json

/-- The integer as a value. -/
def int (value : Int) : Json := .num (.int value)

/-- The natural number as a value. -/
def nat (value : Nat) : Json := .num (.int value)

/-- The text, or `null` where there is none. -/
def optStr : Option String → Json
  | none => .null
  | some text => .str text

/-- Whether the value is `null`. -/
def isNull : Json → Bool
  | .null => true
  | _ => false

/-- The value under a key of an object. -/
def member? (key : String) : Json → Option Json
  | .obj members => Entries.get? key members
  | _ => none

/-- An object with its members put into key order; of two with one key the later counts. -/
def ofMembers (members : List (String × Json)) : Json :=
  .obj (members.foldl (fun sorted entry => Entries.set entry.1 entry.2 sorted) [])

/-! ### Equality of values -/

mutual

/-- Equality with numbers compared by `Number.same`. -/
def same : Json → Json → Bool
  | .null, .null => true
  | .bool a, .bool b => a == b
  | .num a, .num b => a.same b
  | .str a, .str b => a == b
  | .arr as, .arr bs => sameItems as bs
  | .obj as, .obj bs => sameMembers as bs
  | _, _ => false

/-- Equality of lists of values, item by item. -/
def sameItems : List Json → List Json → Bool
  | [], [] => true
  | a :: as, b :: bs => same a b && sameItems as bs
  | _, _ => false

/-- Equality of lists of members, key and value of each. -/
def sameMembers : List (String × Json) → List (String × Json) → Bool
  | [], [] => true
  | (j, a) :: as, (k, b) :: bs => j == k && same a b && sameMembers as bs
  | _, _ => false

end

/-! ### Nesting and order -/

mutual

/-- How many arrays and objects lie inside one another. -/
def depth : Json → Nat
  | .arr items => depthItems items + 1
  | .obj members => depthMembers members + 1
  | _ => 0

/-- The greatest nesting among values. -/
def depthItems : List Json → Nat
  | [] => 0
  | item :: items => max item.depth (depthItems items)

/-- The greatest nesting among members. -/
def depthMembers : List (String × Json) → Nat
  | [] => 0
  | (_, value) :: members => max value.depth (depthMembers members)

end

mutual

/-- Every object at every depth has its members in strict key order. -/
def Ordered : Json → Prop
  | .arr items => OrderedItems items
  | .obj members => Entries.Sorted members ∧ OrderedMembers members
  | _ => True

/-- Every value of a list is ordered. -/
def OrderedItems : List Json → Prop
  | [] => True
  | item :: items => item.Ordered ∧ OrderedItems items

/-- The value of every member is ordered. -/
def OrderedMembers : List (String × Json) → Prop
  | [] => True
  | (_, value) :: members => value.Ordered ∧ OrderedMembers members

end

end Json

end CaseForm
