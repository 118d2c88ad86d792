import CaseForm.Codec
import CaseForm.Reference.Addressing
import CaseForm.Table

/-!
Validation: what the server found wrong with submitted values.

A payload lists messages, each with the path of its property or without one. Messages without a
path belong to no field and are left out of the table of messages by reference.
-/

namespace CaseForm

/-- One message of the server. -/
structure ValidationMessage where
  path : Option String
  message : String
  deriving DecidableEq, Repr, Inhabited

/-- Nothing is required; a message without a path has no slot for it. -/
def ValidationMessage.record : Record ValidationMessage where
  blank := ⟨none, ""⟩
  slots := [
    .optional "Path" .text (·.path) fun v r => { r with path := v },
    .always "ValidationMessage" .text (·.message) fun v r => { r with message := v }]

/-- The messages that the server answers a submission with. -/
structure ValidationPayload where
  messages : List ValidationMessage
  deriving DecidableEq, Repr, Inhabited

/-- Nothing is required. -/
def ValidationPayload.record : Record ValidationPayload where
  blank := ⟨[]⟩
  slots := [
    .always "ValidationMessages" ValidationMessage.record.codec.list (·.messages)
      fun v r => { r with messages := v }]

/-- Messages under the references of their properties. -/
abbrev ValidationErrors := Table String

namespace ValidationErrors

/-- Adds one message under its reference, which may be written relative. -/
def add (errors : ValidationErrors) (message : ValidationMessage) : ValidationErrors :=
  match message.path with
  | none => errors
  | some path => if path = "" then errors else errors.insert (expandRelative path) message.message

/-- Adds the messages of a payload; a later one takes the place of an earlier one. -/
def merge (errors : ValidationErrors) (payload : ValidationPayload) : ValidationErrors :=
  payload.messages.foldl add errors

/-- The messages of one payload. -/
def ofPayload (payload : ValidationPayload) : ValidationErrors := merge .empty payload

end ValidationErrors

end CaseForm
