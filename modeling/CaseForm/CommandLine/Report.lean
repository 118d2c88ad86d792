import CaseForm.CommandLine.Arguments
import CaseForm.Document.Write
import CaseForm.Layout.Seed
import CaseForm.Layout.ViewCodec
import CaseForm.Render.Outline
import CaseForm.Render.View
import CaseForm.Render.Written

/-!
Reports: what a run of the command line prints, and the code with which it ends.

The code is 0 where the task is done, 1 where it fails, 2 where the arguments are faulty, and 101
where the display pattern of the settings cannot write a date. A task that fails prints nothing but
its error.
-/

namespace CaseForm.CommandLine

/-- What a run leaves. -/
structure Report where
  output : String
  errors : String
  code : Nat
  deriving DecidableEq, Repr

/-- The contents of files by their paths, or the reason why one cannot be read. -/
abbrev Files := String → Except String String

/-- Why a task fails. -/
inductive Failure where
  | unreadable (path reason : String)
  | config (path : String) (cause : DecodeError)
  | view (path : String) (cause : DecodeError)
  | edits (cause : DecodeError)
  | reference (cause : ReferenceError)
  | unwritableDate (cause : UnwritableDate)

/-- The text of a fault in a document. -/
def faultText (cause : DecodeError) : String :=
  cause.message?.getD "the text is not a document of the expected form"

/-- The wording of a failure. -/
def Failure.message : Failure → String
  | .unreadable path reason => "Failed to read '" ++ path ++ "': " ++ reason
  | .config path cause => "Failed to parse config '" ++ path ++ "': " ++ faultText cause
  | .view path cause => "Failed to load view '" ++ path ++ "': " ++ faultText cause
  | .edits cause => "Failed to parse edits JSON: " ++ faultText cause
  | .reference cause => cause.message
  | .unwritableDate cause =>
    "The pattern '" ++ cause.pattern ++ "' cannot write the date " ++ cause.date.text

/-- The code of a failure. -/
def Failure.code : Failure → Nat
  | .unwritableDate _ => 101
  | _ => 1

/-- Reads and decodes a file. -/
def load {α : Type} (files : Files) (codec : Codec α) (fault : DecodeError → Failure)
    (path : String) : Except Failure α := do
  match files path with
  | .error reason => throw (.unreadable path reason)
  | .ok text => (codec.readText text).mapError fault

/-- A flat object of values by their references. -/
def editsCodec : Codec (Table Json) where
  read written :=
    match Codec.value.read written with
    | .ok (.obj members) => .ok (Table.ofList members)
    | .ok _ => .error .invalid
    | .error error => .error error
  write table := .obj table.entries

/-- The settings of an invocation. -/
def loadSettings (files : Files) : Option String → Except Failure Settings
  | none => .ok {}
  | some path => load files Settings.record.codec (.config path) path

/-- Shows a view as it renders with the values that it brings along. -/
def showView (settings : Settings) (now : Moment) (asJson : Bool) (view : View) :
    Except Failure String := do
  let context : RenderContext :=
    { values := view.seed, errors := .empty, loading := .empty, now := now }
  match (Renderer.ofSettings settings).view view context with
  | .error error => throw (.unwritableDate error)
  | .ok none => return "View '" ++ view.name ++ "' is not visible.\n"
  | .ok (some node) => return if asJson then node.toJson.pretty 0 ++ "\n" else node.outline

/-- A line of a list of values. -/
def valueLine (entry : String × Json) : String :=
  "  " ++ entry.1 ++ " = " ++ entry.2.compact ++ "\n"

/-- Lists the values that a view brings along. -/
def listValues (view : View) : String :=
  let values := view.seed
  toString values.size ++ " value(s) in '" ++ view.name ++ "':\n" ++
    String.join (values.entries.map valueLine)

/-- Shows the submission document of values. -/
def showNested (settings : Settings) (values : Table Json) : Except Failure String :=
  match (Addressing.ofSettings settings).nest values with
  | .error error => .error (.reference error)
  | .ok document => .ok (Json.pretty 0 (.obj [("content", document)]) ++ "\n")

/-- Does a task. -/
def perform (files : Files) (now : Moment) (invocation : Invocation) : Except Failure String := do
  let settings ← loadSettings files invocation.config
  match invocation.task with
  | .render path asJson =>
    showView settings now asJson (← load files View.anyDepth (.view path) path)
  | .values path => return listValues (← load files View.anyDepth (.view path) path)
  | .nest path => showNested settings (← load files editsCodec .edits path)

/-- How the arguments are written. -/
def usage : String :=
  "Inspect case-management layout documents offline\n\n" ++
  "Usage: caseform [-c FILE] render FILE [--json]\n" ++
  "       caseform [-c FILE] values FILE\n" ++
  "       caseform [-c FILE] nest FILE\n\n" ++
  "Options:\n" ++
  "  -c, --config FILE  Path to a JSON form configuration\n" ++
  "      --json         Emit the tree as JSON instead of an ASCII tree\n" ++
  "  -h, --help         Print help\n"

/-- Runs the command line. -/
def run (files : Files) (now : Moment) (arguments : List String) : Report :=
  match Asked.ofArguments arguments with
  | .error error => ⟨"", "error: " ++ error.message ++ "\n\n" ++ usage, 2⟩
  | .ok .help => ⟨usage, "", 0⟩
  | .ok (.invocation invocation) =>
    match perform files now invocation with
    | .ok output => ⟨output, "", 0⟩
    | .error failure => ⟨"", "\nError: " ++ failure.message ++ "\n", failure.code⟩

/-- The files that a run reads. -/
def pathsOf (arguments : List String) : List String :=
  match Asked.ofArguments arguments with
  | .ok (.invocation invocation) => invocation.paths
  | _ => []

end CaseForm.CommandLine
