import CaseForm.Json.Token

/-!
Reading a JSON text.

The tokens are taken one by one against a stack of the arrays and objects that are still open. The
first token that does not fit closes them all around a `Syntax.cut`, so what stood before the fault
is kept.
-/

namespace CaseForm.Json

/-- An array or object that is still open: what it holds so far, the last one first. -/
inductive Frame where
  | array (reversed : List Syntax)
  /-- An object, and the key whose value is being read. -/
  | object (reversed : List (Option String × Syntax)) (key : Option String)

/-- What has to come next. -/
inductive Expecting where
  | value
  /-- A value, or the end of an array that has just begun. -/
  | firstValue
  /-- A comma, or the end of what is open. -/
  | next
  | key
  /-- A key, or the end of an object that has just begun. -/
  | firstKey
  | colon

/-- How far a text has been read. -/
inductive Reading where
  | inside (stack : List Frame) (expecting : Expecting)
  /-- The value is complete; `more` says whether anything comes after it. -/
  | complete (value : Syntax) (more : Bool)

namespace Frame

/-- Closes the frame after one more value. -/
def closeWith (value : Syntax) : Frame → Syntax
  | .array reversed => .arr (value :: reversed).reverse
  | .object reversed key => .obj ((key, value) :: reversed).reverse

/-- Closes the frame. -/
def close : Frame → Syntax
  | .array reversed => .arr reversed.reverse
  | .object reversed _ => .obj reversed.reverse

end Frame

/-- Ends the text inside the open frames. -/
def cutOff (stack : List Frame) : Reading :=
  .complete (stack.foldl Frame.closeWith .cut) true

/-- Adds a finished value to the innermost frame. -/
def supply (value : Syntax) : List Frame → Reading
  | [] => .complete value false
  | .array reversed :: stack => .inside (.array (value :: reversed) :: stack) .next
  | .object reversed key :: stack => .inside (.object ((key, value) :: reversed) none :: stack) .next

/-- Takes the first token of a value. -/
def beginValue (stack : List Frame) : Token → Reading
  | .openArray => .inside (.array [] :: stack) .firstValue
  | .openObject => .inside (.object [] none :: stack) .firstKey
  | .text (some text) => supply (.str text) stack
  | .text none => supply .void stack
  | .literal value => supply value stack
  | _ => cutOff stack

/-- Takes a key of the innermost frame. -/
def beginMember (token : Token) : List Frame → Reading
  | .object reversed _ :: stack =>
    match token with
    | .text key => .inside (.object reversed key :: stack) .colon
    | _ => cutOff (.object reversed none :: stack)
  | stack => cutOff stack

/-- Takes one token. -/
def Reading.step (r : Reading) (token : Token) : Reading :=
  match r with
  | .complete value _ => .complete value true
  | .inside stack expecting =>
    match expecting, token, stack with
    | .firstValue, .closeArray, frame :: rest => supply frame.close rest
    | .value, token, stack => beginValue stack token
    | .firstValue, token, stack => beginValue stack token
    | .firstKey, .closeObject, frame :: rest => supply frame.close rest
    | .key, token, stack => beginMember token stack
    | .firstKey, token, stack => beginMember token stack
    | .colon, .colon, stack => .inside stack .value
    | .next, .comma, .array items :: rest => .inside (.array items :: rest) .value
    | .next, .comma, .object members key :: rest => .inside (.object members key :: rest) .key
    | .next, .closeArray, .array items :: rest => supply (.arr items.reverse) rest
    | .next, .closeObject, .object members _ :: rest => supply (.obj members.reverse) rest
    | _, _, stack => cutOff stack

/-- A text as far as it is JSON, and whether nothing stands after the value. -/
def readText (text : String) : Syntax × Bool :=
  match (tokens text).foldl Reading.step (.inside [] .value) with
  | .complete value more => (value, !more)
  | .inside stack _ =>
    match cutOff stack with
    | .complete value more => (value, !more)
    | .inside .. => (.cut, false)

/-- The deepest nesting in which values are read. -/
def maxDepth : Nat := 127

/-- A source: the text of one value. -/
structure Source where
  body : Syntax
  /-- Whether nothing but blanks stands after the value. -/
  ended : Bool

/-- Reads a source, with values only down to `maxDepth`. -/
def Source.ofText (text : String) : Source :=
  let (body, ended) := readText text
  ⟨body.limitDepth maxDepth, ended⟩

end CaseForm.Json
