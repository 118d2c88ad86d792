import CaseForm.Codec

/-!
What goes to the server and what comes back.
-/

namespace CaseForm

/-- An action that an assignment offers. -/
structure AssignmentAction where
  id : String
  name : String
  deriving DecidableEq, Repr, Inhabited

/-- Only the identifier is required. -/
def AssignmentAction.record : Record AssignmentAction where
  blank := ⟨"", ""⟩
  slots := [
    .mandatory "ID" .text (·.id) fun v r => { r with id := v },
    .always "name" .text (·.name) fun v r => { r with name := v }]

/-- A unit of work with the actions that it offers. -/
structure Assignment where
  id : String
  caseId : String
  actions : List AssignmentAction
  /-- The mark of the state in which the server knows the case. -/
  etag : Option String
  deriving DecidableEq, Repr, Inhabited

/-- The identifiers of the assignment and its case are required. -/
def Assignment.record : Record Assignment where
  blank := ⟨"", "", [], none⟩
  slots := [
    .mandatory "ID" .text (·.id) fun v r => { r with id := v },
    .mandatory "caseID" .text (·.caseId) fun v r => { r with caseId := v },
    .always "actions" AssignmentAction.record.codec.list (·.actions)
      fun v r => { r with actions := v },
    .optional "etag" .text (·.etag) fun v r => { r with etag := v }]

/-- The case, assignment and action that a form works on. -/
structure AssignmentContext where
  caseId : String
  assignmentId : String
  actionId : String
  etag : Option String
  deriving DecidableEq, Repr, Inhabited

/-- A document for an action on an assignment. -/
structure ActionRequest where
  caseId : String
  assignmentId : String
  actionId : String
  content : Json
  deriving Repr, Inhabited

/-- A document to be saved to a case. -/
structure SaveRequest where
  caseId : String
  etag : Option String
  content : Json
  deriving Repr, Inhabited

/-- A document for a new case. -/
structure CreateRequest where
  caseTypeId : String
  content : Json
  deriving Repr, Inhabited

/-- The payload of a request. -/
def payloadMember (content : Json) : String × Json := ("payload", .obj [("content", content)])

/-- The body of a request on an action. -/
def ActionRequest.toJson (request : ActionRequest) : Json :=
  .obj [("caseId", .str request.caseId), ("assignmentId", .str request.assignmentId),
    ("actionId", .str request.actionId), payloadMember request.content]

/-- The body of a request to save; the mark is `null` where there is none. -/
def SaveRequest.toJson (request : SaveRequest) : Json :=
  .obj [("caseId", .str request.caseId), ("etag", .optStr request.etag),
    payloadMember request.content]

/-- The body of a request for a new case. -/
def CreateRequest.toJson (request : CreateRequest) : Json :=
  .obj [("caseTypeId", .str request.caseTypeId), payloadMember request.content]

/-- What a form asks of the server. -/
inductive Request where
  /-- The view of an action. -/
  | view (assignmentId actionId : String)
  /-- The view again, with the values as they are edited. -/
  | refresh (request : ActionRequest)
  | submit (request : ActionRequest)
  | save (request : SaveRequest)
  | create (request : CreateRequest)
  deriving Repr, Inhabited

/-- The server's word on a submission: where the case goes from here. -/
structure SubmitResponse where
  nextAssignmentId : Option String
  nextActionId : Option String
  nextPageId : Option String
  deriving DecidableEq, Repr, Inhabited

/-- Nothing is required: a case may end with its last assignment. -/
def SubmitResponse.record : Record SubmitResponse where
  blank := ⟨none, none, none⟩
  slots := [
    .always "nextAssignmentID" (.option .text) (·.nextAssignmentId)
      fun v r => { r with nextAssignmentId := v },
    .always "nextActionID" (.option .text) (·.nextActionId)
      fun v r => { r with nextActionId := v },
    .always "nextPageID" (.option .text) (·.nextPageId) fun v r => { r with nextPageId := v }]

/-- The server's word on a new case. -/
structure CreateResponse where
  caseId : String
  nextAssignmentId : Option String
  nextPageId : Option String
  deriving DecidableEq, Repr, Inhabited

/-- Only the identifier of the new case is required. -/
def CreateResponse.record : Record CreateResponse where
  blank := ⟨"", none, none⟩
  slots := [
    .mandatory "ID" .text (·.caseId) fun v r => { r with caseId := v },
    .always "nextAssignmentID" (.option .text) (·.nextAssignmentId)
      fun v r => { r with nextAssignmentId := v },
    .always "nextPageID" (.option .text) (·.nextPageId) fun v r => { r with nextPageId := v }]

end CaseForm
