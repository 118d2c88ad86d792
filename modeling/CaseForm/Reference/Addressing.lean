import CaseForm.Reference.Segment
import CaseForm.Settings
import CaseForm.Text.Cut

/-!
References: paths through a nested document.

A reference is read against a marker of the root page and a highest list position. The marker is
left out wherever it stands as a container, so it never reaches a document; the last segment is
always kept.
-/

namespace CaseForm

/-- A reference in its parts: the containers that it leads through, and its last segment. -/
structure Path where
  containers : List Segment
  leaf : Segment
  deriving DecidableEq, Repr, Inhabited

namespace Path

/-- All segments in order. -/
def segments (path : Path) : List Segment := path.containers ++ [path.leaf]

/-- The written form of a path. -/
def text (path : Path) : String :=
  String.ofList (Text.join '.' (path.segments.map fun segment => segment.text.toList))

end Path

/-- Leaves out the dot at the head of a relative reference. -/
def expandRelative (reference : String) : String :=
  match reference.toList with
  | '.' :: rest => String.ofList rest
  | _ => reference

/-- The segments of a reference as they are written. -/
def referenceParts (reference : String) : List String :=
  (Text.cut '.' reference.toList).map String.ofList

/-- How references are read: the marker of the root page and the highest position in a list. -/
structure Addressing where
  rootPage : String
  maxListIndex : Nat
  deriving DecidableEq, Repr

namespace Addressing

/-- The addressing that settings ask for. -/
def ofSettings (settings : Settings) : Addressing := ⟨settings.rootPage, settings.maxListIndex⟩

/-- The addressing of the default settings. -/
def standard : Addressing := ofSettings {}

/-- Reads the container segments, without markers of the root page. -/
def parseContainers (addressing : Addressing) (reference : String) :
    List String → Except ReferenceError (List Segment)
  | [] => .ok []
  | part :: parts =>
    if part = addressing.rootPage then addressing.parseContainers reference parts
    else do
      let segment ← Segment.parse reference part
      let rest ← addressing.parseContainers reference parts
      return segment :: rest

/-- Whether a segment names a position above the highest. -/
def exceeds (addressing : Addressing) : Segment → Bool
  | .listItem _ index => addressing.maxListIndex ≤ index
  | _ => false

/-- Reads a reference: its last segment, then its containers, then the bound on positions. -/
def parse (addressing : Addressing) (reference : String) : Except ReferenceError Path := do
  let parts := referenceParts reference
  let leaf ← Segment.parse reference (parts.getLastD "")
  let containers ← addressing.parseContainers reference parts.dropLast
  let path : Path := ⟨containers, leaf⟩
  match path.segments.find? addressing.exceeds with
  | some segment => throw (.invalidIndex reference segment.text)
  | none => return path

end Addressing

end CaseForm
