import CaseForm.Codec

/-!
Bindings: the actions that a layout document declares for a field, and the events that fire them.

An action kind is read from its tag. A tag that names no known kind is kept as it is, so documents
with kinds from later versions still decode.
-/

namespace CaseForm

/-- What an action does. -/
inductive ActionKind where
  | setValue
  | postValue
  | refresh
  | performAction
  | runScript
  | openUrl
  /-- A kind that is not supported, by its tag. -/
  | other (tag : String)
  deriving DecidableEq, Repr, Inhabited

namespace ActionKind

/-- The tag that is written for a kind. -/
def tag : ActionKind → String
  | .setValue => "setValue"
  | .postValue => "postValue"
  | .refresh => "refresh"
  | .performAction => "takeAction"
  | .runScript => "runScript"
  | .openUrl => "openUrlInWindow"
  | .other tag => tag

/-- The kind that a tag names; performing an action has two tags. -/
def ofTag : String → ActionKind
  | "setValue" => .setValue
  | "postValue" => .postValue
  | "refresh" => .refresh
  | "takeAction" | "performAction" => .performAction
  | "runScript" => .runScript
  | "openUrlInWindow" => .openUrl
  | tag => .other tag

/-- Whether the kind is one that handlers are composed of. -/
def isSupported : ActionKind → Bool
  | .other _ => false
  | _ => true

/-- Kinds by their tags. -/
def codec : Codec ActionKind := .named ofTag tag

end ActionKind

/-- A value to be set: a reference, which may be relative, and a property expression. -/
structure SetValuePair where
  name : String
  value : Json
  deriving Repr, Inhabited

/-- The name is required; a pair without a value sets `null`. -/
def SetValuePair.record : Record SetValuePair where
  blank := ⟨"", .null⟩
  slots := [
    .mandatory "name" .text (·.name) fun v r => { r with name := v },
    .always "value" .value (·.value) fun v r => { r with value := v }]

/-- An argument of a script: its name and a property expression. -/
structure ScriptParameter where
  name : String
  value : Json
  deriving Repr, Inhabited

/-- Nothing is required: only the value counts. -/
def ScriptParameter.record : Record ScriptParameter where
  blank := ⟨"", .null⟩
  slots := [
    .always "name" .text (·.name) fun v r => { r with name := v },
    .always "value" .value (·.value) fun v r => { r with value := v }]

/-- The parameters of an action; which of them count depends on its kind. -/
structure ActionParameters where
  setValuePairs : List SetValuePair
  actionName : Option String
  functionName : Option String
  functionParameters : List ScriptParameter
  /-- A property expression; `null` where there is none. -/
  urlBase : Json
  windowName : Option String
  windowOptions : Option String
  deriving Repr, Inhabited

/-- No parameters. -/
def ActionParameters.blank : ActionParameters := ⟨[], none, none, [], .null, none, none⟩

/-- Parameters that are not given are not written either. -/
def ActionParameters.record : Record ActionParameters where
  blank := .blank
  slots := [
    .unlessEmpty "setValuePairs" SetValuePair.record.codec (·.setValuePairs)
      fun v r => { r with setValuePairs := v },
    .optional "actionName" .text (·.actionName) fun v r => { r with actionName := v },
    .optional "functionName" .text (·.functionName) fun v r => { r with functionName := v },
    .unlessEmpty "functionParameters" ScriptParameter.record.codec (·.functionParameters)
      fun v r => { r with functionParameters := v },
    .unlessNull "urlBase" (·.urlBase) fun v r => { r with urlBase := v },
    .optional "windowName" .text (·.windowName) fun v r => { r with windowName := v },
    .optional "windowOptions" .text (·.windowOptions) fun v r => { r with windowOptions := v }]

/-- An action: its kind and its parameters. -/
structure Action where
  kind : ActionKind
  parameters : ActionParameters
  deriving Repr, Inhabited

/-- Only the kind is required. -/
def Action.record : Record Action where
  blank := ⟨.other "", .blank⟩
  slots := [
    .mandatory "action" ActionKind.codec (·.kind) fun v r => { r with kind := v },
    .always "actionProcess" ActionParameters.record.codec (·.parameters)
      fun v r => { r with parameters := v }]

/-- The name of an event. -/
structure EventBinding where
  event : String
  deriving Repr, Inhabited

/-- The name is required. -/
def EventBinding.record : Record EventBinding where
  blank := ⟨""⟩
  slots := [.mandatory "event" .text (·.event) fun v r => { r with event := v }]

/-- Actions and the events that fire them. -/
structure ActionSet where
  actions : List Action
  events : List EventBinding
  deriving Repr, Inhabited

/-- Nothing is required. -/
def ActionSet.record : Record ActionSet where
  blank := ⟨[], []⟩
  slots := [
    .always "actions" Action.record.codec.list (·.actions) fun v r => { r with actions := v },
    .always "events" EventBinding.record.codec.list (·.events) fun v r => { r with events := v }]

end CaseForm
