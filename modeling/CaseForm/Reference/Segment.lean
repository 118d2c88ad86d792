/-!
Segments: the parts of a reference between its dots.

A segment is a plain name, or a name with a subscript in parentheses. A subscript that is a whole
number of 64 bits is a position in a list, counted from one; any other subscript is the key of an
entry in a group. `Segment.parse` gives each other form of text its own reason
(`Malformation`), and `Segment.text` writes a segment back.
-/

namespace CaseForm

/-- What is wrong with the form of a segment. -/
inductive Malformation where
  | empty
  /-- A closing parenthesis without an opening one. -/
  | unopened
  /-- Something after the subscript, or no end of it. -/
  | unclosed
  | unnamed
  | emptySubscript
  /-- More than one pair of parentheses. -/
  | unbalanced
  /-- A subscript where a plain name is needed. -/
  | notPlain
  deriving DecidableEq, Repr

/-- The wording of a malformation. -/
def Malformation.text : Malformation → String
  | .empty => "empty segment"
  | .unopened => "closing parenthesis without an opening one"
  | .unclosed => "repeat subscript must close the segment"
  | .unnamed => "repeat subscript has no container name"
  | .emptySubscript => "empty subscript"
  | .unbalanced => "unbalanced parentheses"
  | .notPlain => "a repeat container must be addressed by a plain name"

/-- Why a reference cannot be read or followed; each names the reference and the segment. -/
inductive ReferenceError where
  | malformed (reference segment : String) (reason : Malformation)
  /-- A position in a list that is not above zero, or above the highest one. -/
  | invalidIndex (reference segment : String)
  /-- A list where the document holds a group or a page, or the other way round. -/
  | shapeConflict (reference segment : String)
  deriving DecidableEq, Repr

/-- The wording of an error. -/
def ReferenceError.message : ReferenceError → String
  | .malformed reference segment reason =>
    "Reference '" ++ reference ++ "' has a malformed segment '" ++ segment ++ "': " ++ reason.text
  | .invalidIndex reference segment =>
    "Reference '" ++ reference ++ "' uses an invalid list index in segment '" ++ segment ++ "'"
  | .shapeConflict reference segment =>
    "Segment '" ++ segment ++ "' of reference '" ++ reference ++
      "' conflicts with the shape already present in the document"

/-- One part of a reference. -/
inductive Segment where
  /-- A page, or a property of one. -/
  | page (name : String)
  /-- An element of a list; the index counts from zero. -/
  | listItem (name : String) (index : Nat)
  /-- An entry of a group. -/
  | groupEntry (name key : String)
  deriving DecidableEq, Repr, Inhabited

/-- The number that digits stand for, if there are any and it is at most `bound`. -/
def boundedNumber? (bound : Nat) (digits : List Char) : Option Nat :=
  let value := Nat.ofDigitChars 10 digits 0
  if digits ≠ [] ∧ digits.all Char.isDigit ∧ value ≤ bound then some value else none

/-- The whole number of 64 bits that a subscript is: an optional sign and digits. -/
def wholeNumber? : List Char → Option Int
  | '-' :: digits => (boundedNumber? 0x8000000000000000 digits).map fun n => -n
  | '+' :: digits => (boundedNumber? 0x7fffffffffffffff digits).map fun n => n
  | digits => (boundedNumber? 0x7fffffffffffffff digits).map fun n => n

namespace Segment

/-- The name of the page, list or group. -/
def name : Segment → String
  | .page name | .listItem name _ | .groupEntry name _ => name

/-- Whether the segment has a subscript. -/
def isRepeat : Segment → Bool
  | .page _ => false
  | _ => true

/-- The written form of a segment. -/
def text : Segment → String
  | .page name => name
  | .listItem name index => name ++ "(" ++ toString (index + 1) ++ ")"
  | .groupEntry name key => name ++ "(" ++ key ++ ")"

/-- The part before the first opening parenthesis, and the part after it, if there is one. -/
def splitSubscript (cs : List Char) : List Char × Option (List Char) :=
  (cs.takeWhile (· != '('), (cs.dropWhile (· != '(')).tail?)

/-- The segment of a name and a subscript. -/
def ofSubscript (reference segment : String) (name key : List Char) :
    Except ReferenceError Segment :=
  match wholeNumber? key with
  | some position =>
    if 1 ≤ position then .ok (.listItem (String.ofList name) (position - 1).toNat)
    else .error (.invalidIndex reference segment)
  | none => .ok (.groupEntry (String.ofList name) (String.ofList key))

/-- Reads one segment of a reference. -/
def parse (reference segment : String) : Except ReferenceError Segment :=
  let cs := segment.toList
  let malformed (reason : Malformation) : Except ReferenceError Segment :=
    .error (.malformed reference segment reason)
  if cs = [] then malformed .empty
  else match splitSubscript cs with
    | (_, none) => if ')' ∈ cs then malformed .unopened else .ok (.page segment)
    | (name, some inner) =>
      let key := inner.dropLast
      if inner.getLast? ≠ some ')' then malformed .unclosed
      else if name = [] then malformed .unnamed
      else if key = [] then malformed .emptySubscript
      else if '(' ∈ key ∨ ')' ∈ key then malformed .unbalanced
      else ofSubscript reference segment name key

/-- The subscript of a segment as it is written. -/
def subscript? (segment : String) : Option String :=
  ((splitSubscript segment.toList).2).map fun inner => String.ofList inner.dropLast

end Segment

end CaseForm
