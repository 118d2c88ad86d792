import CaseForm.Json.Reader

/-!
Codecs: reading values of the model from written JSON and writing them back.

A codec reads from left to right and stops at the first fault. A record is read from an object or
from an array of its slots in their order:

* a key that names no slot is passed over, whatever it holds; a slot given twice is a fault;
* a slot that is not given keeps what the blank record has, unless the slot is required;
* an array may be shorter than the slots, but not longer.

`Codec.Stable` says that what has been read is written so that reading gives it again.
-/

namespace CaseForm

/-- Why a document does not decode. -/
inductive DecodeError where
  /-- Malformed text, a value of a wrong kind, or a slot missing or given twice. -/
  | invalid
  /-- A group that carries more than one element. -/
  | groupVariants (found : Nat)
  deriving DecidableEq, Repr

/-- The text of the fault, where it is one of this library and not of the text. -/
def DecodeError.message? : DecodeError → Option String
  | .invalid => none
  | .groupVariants found =>
    some ("A group may carry only one of view, layout, paragraph, caption or field, found " ++
      toString found)

/-- How values of a type are read and written. -/
structure Codec (α : Type) where
  read : Syntax → Except DecodeError α
  write : α → Json

namespace Codec

variable {α β : Type}

/-- A text. -/
def text : Codec String where
  read
    | .str value => .ok value
    | _ => .error .invalid
  write := .str

/-- A text, or `null` for the empty one. -/
def textOrNull : Codec String where
  read
    | .null => .ok ""
    | .str value => .ok value
    | _ => .error .invalid
  write := .str

/-- A truth value. -/
def flag : Codec Bool where
  read
    | .bool value => .ok value
    | _ => .error .invalid
  write := .bool

/-- A natural number of 64 bits. -/
def natural : Codec Nat where
  read
    | .num (.int value) =>
      if 0 ≤ value ∧ value < 0x10000000000000000 then .ok value.toNat else .error .invalid
    | _ => .error .invalid
  write := .nat

/-- Any JSON value. -/
def value : Codec Json where
  read written :=
    match written.value? with
    | some value => .ok value
    | none => .error .invalid
  write := id

/-- A text that names something. -/
def named (ofTag : String → α) (tag : α → String) : Codec α where
  read
    | .str value => .ok (ofTag value)
    | _ => .error .invalid
  write value := .str (tag value)

/-- A value, or `null` for none. -/
def option (codec : Codec α) : Codec (Option α) where
  read
    | .null => .ok none
    | written => some <$> codec.read written
  write
    | none => .null
    | some value => codec.write value

/-- Reads the values of a list one by one. -/
def readItems (codec : Codec α) : List Syntax → Except DecodeError (List α)
  | [] => .ok []
  | item :: items => do
    let first ← codec.read item
    let rest ← codec.readItems items
    return first :: rest

/-- An array of values. -/
def list (codec : Codec α) : Codec (List α) where
  read
    | .arr items => codec.readItems items
    | _ => .error .invalid
  write values := .arr (values.map codec.write)

/-- What a codec has read, it writes so that reading gives it again. -/
def Stable (codec : Codec α) : Prop :=
  ∀ written value, codec.read written = .ok value →
    codec.read (.ofJson (codec.write value)) = .ok value

/-- Reads a document: its body, and then the end of the text. -/
def readSource (codec : Codec α) (source : Json.Source) : Except DecodeError α := do
  let value ← codec.read source.body
  if source.ended then return value else throw .invalid

/-- Reads the text of a document. -/
def readText (codec : Codec α) (text : String) : Except DecodeError α :=
  codec.readSource (.ofText text)

end Codec

/-- A slot of a record: how its value gets into a record and out of it. -/
structure Slot (α : Type) where
  name : String
  /-- Whether a record without the slot is faulty. -/
  required : Bool
  store : Syntax → α → Except DecodeError α
  /-- What is written for the slot, if anything. -/
  member? : α → Option Json

namespace Slot

variable {α β : Type}

/-- A slot that is left out of writing where its value meets a test. -/
def omitting (omitted : β → Bool) (name : String) (codec : Codec β) (get : α → β)
    (put : β → α → α) : Slot α where
  name := name
  required := false
  store written record := do
    let value ← codec.read written
    return put value record
  member? record := if omitted (get record) then none else some (codec.write (get record))

/-- A slot that is always written. -/
def always (name : String) (codec : Codec β) (get : α → β) (put : β → α → α) : Slot α :=
  omitting (fun _ => false) name codec get put

/-- A slot that every record has to give. -/
def mandatory (name : String) (codec : Codec β) (get : α → β) (put : β → α → α) : Slot α :=
  { always name codec get put with required := true }

/-- A slot that may be absent, and is then left out. -/
def optional (name : String) (codec : Codec β) (get : α → Option β) (put : Option β → α → α) :
    Slot α :=
  omitting Option.isNone name codec.option get put

/-- A list that is left out where it is empty. -/
def unlessEmpty (name : String) (codec : Codec β) (get : α → List β) (put : List β → α → α) :
    Slot α :=
  omitting List.isEmpty name codec.list get put

/-- A free value that is left out where it is `null`. -/
def unlessNull (name : String) (get : α → Json) (put : Json → α → α) : Slot α :=
  omitting Json.isNull name Codec.value get put

end Slot

/-- A record type: what a record has before anything is read, and its slots in their order. -/
structure Record (α : Type) where
  blank : α
  slots : List (Slot α)

namespace Record

variable {α : Type}

/-- Whether every required slot has been given. -/
def satisfied (record : Record α) (given : List String) : Bool :=
  record.slots.all fun slot => !slot.required || given.contains slot.name

/-- Reads the members of an object; `given` holds the slots met before. -/
def readMembers (record : Record α) (given : List String) (soFar : α) :
    List (Option String × Syntax) → Except DecodeError α
  | [] => if record.satisfied given then .ok soFar else .error .invalid
  | (none, _) :: _ => .error .invalid
  | (some key, value) :: members =>
    match record.slots.find? fun slot => slot.name == key with
    | none =>
      if value.intact then record.readMembers given soFar members else .error .invalid
    | some slot =>
      if given.contains key then .error .invalid
      else do
        let next ← slot.store value soFar
        record.readMembers (key :: given) next members

/-- Reads the items of an array into the slots. -/
def readItems (soFar : α) : List (Slot α) → List Syntax → Except DecodeError α
  | slots, [] => if slots.any (·.required) then .error .invalid else .ok soFar
  | [], _ :: _ => .error .invalid
  | slot :: slots, item :: items => do
    let next ← slot.store item soFar
    readItems next slots items

/-- The members written for a record. -/
def members (record : Record α) (value : α) : List (String × Json) :=
  record.slots.filterMap fun slot => (slot.member? value).map fun json => (slot.name, json)

/-- The codec of the record type. -/
def codec (record : Record α) : Codec α where
  read
    | .obj members => record.readMembers [] record.blank members
    | .arr items => readItems record.blank record.slots items
    | _ => .error .invalid
  write value := .obj (record.members value)

end Record

end CaseForm
