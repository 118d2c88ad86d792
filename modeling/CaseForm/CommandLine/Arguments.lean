import CaseForm.Text.Cut

/-!
Arguments of the command line: an optional settings file, and a task on one file.

The settings file may be named before the task and after it; the later place counts. Arguments are
read from left to right, and the first fault ends the reading, as does a request for help.
-/

namespace CaseForm.CommandLine

/-- What is to be done. -/
inductive Task where
  /-- Show the render tree of a view, as an outline or as JSON. -/
  | render (path : String) (asJson : Bool)
  /-- List the values that a view brings along. -/
  | values (path : String)
  /-- Show the submission document of a flat object of values. -/
  | nest (path : String)
  deriving DecidableEq, Repr

/-- A task, and the settings that it is done under. -/
structure Invocation where
  config : Option String
  task : Task
  deriving DecidableEq, Repr

/-- The files that an invocation reads, in the order in which it reads them. -/
def Invocation.paths (invocation : Invocation) : List String :=
  invocation.config.toList ++ match invocation.task with
    | .render path _ | .values path | .nest path => [path]

/-- What is wrong with the arguments. -/
inductive UsageError where
  | noTask
  | unknownTask (name : String)
  | missingPath (task : String)
  | missingValue (option : String)
  | repeated (option : String)
  | unexpected (argument : String)
  deriving DecidableEq, Repr

/-- The wording of an error. -/
def UsageError.message : UsageError → String
  | .noTask => "a task is required: render, values or nest"
  | .unknownTask name => "unrecognized task '" ++ name ++ "'"
  | .missingPath task => "the task '" ++ task ++ "' requires the path of a file"
  | .missingValue option => "a value is required for '" ++ option ++ "' but none was supplied"
  | .repeated option => "the argument '" ++ option ++ "' cannot be used multiple times"
  | .unexpected argument => "unexpected argument '" ++ argument ++ "' found"

/-- What the arguments ask for. -/
inductive Asked where
  | help
  | invocation (invocation : Invocation)
  deriving DecidableEq, Repr

/-! ### Single arguments -/

/-- An argument by its form. -/
inductive Argument where
  /-- The option for the settings file, with the value if that is attached. -/
  | config (value : Option String)
  | json
  | help
  /-- The mark after which every argument is plain. -/
  | endOfOptions
  | unknown (text : String)
  | plain (text : String)
  deriving DecidableEq, Repr

/-- The form of an argument that begins with two hyphens. -/
def Argument.ofLong (text : String) (name : List Char) : Argument :=
  match Text.cut '=' name with
  | [name] =>
    if name = "config".toList then .config none
    else if name = "json".toList then .json
    else if name = "help".toList then .help
    else .unknown text
  | name :: value =>
    if name = "config".toList then .config (some (String.ofList (Text.join '=' value)))
    else .unknown text
  | [] => .unknown text

/-- The form of an argument. A single hyphen is plain. -/
def Argument.ofText (text : String) : Argument :=
  match text.toList with
  | ['-', '-'] => .endOfOptions
  | '-' :: '-' :: name => .ofLong text name
  | ['-', 'c'] => .config none
  | '-' :: 'c' :: '=' :: value | '-' :: 'c' :: value => .config (some (String.ofList value))
  | '-' :: 'h' :: _ => .help
  | '-' :: _ :: _ => .unknown text
  | _ => .plain text

/-- An argument with its value, or the fault that stands in its place. -/
inductive Item where
  | config (path : String)
  | json
  | help
  | plain (text : String)
  | fault (error : UsageError)
  deriving DecidableEq, Repr

/-- The items of arguments. A value that is not attached is the next argument, if that is plain. -/
def items : List String → List Item
  | [] => []
  | text :: rest =>
    match Argument.ofText text with
    | .config (some path) => .config path :: items rest
    | .config none =>
      match rest with
      | [] => [.fault (.missingValue "--config")]
      | next :: rest =>
        match Argument.ofText next with
        | .plain path => .config path :: items rest
        | _ => [.fault (.missingValue "--config")]
    | .json => .json :: items rest
    | .help => .help :: items rest
    | .endOfOptions => rest.map .plain
    | .unknown text => .fault (.unexpected text) :: items rest
    | .plain text => .plain text :: items rest

/-! ### Whole command lines -/

/-- What is given after the name of a task. -/
structure Given where
  config : Option String := none
  json : Bool := false
  path : Option String := none

/-- The items after the name of a task; none if they ask for help. -/
def readGiven (takesJson : Bool) (given : Given) : List Item → Except UsageError (Option Given)
  | [] => .ok (some given)
  | .fault error :: _ => .error error
  | .help :: _ => .ok none
  | .config path :: rest =>
    if given.config.isSome then .error (.repeated "--config")
    else readGiven takesJson { given with config := some path } rest
  | .json :: rest =>
    if !takesJson then .error (.unexpected "--json")
    else if given.json then .error (.repeated "--json")
    else readGiven takesJson { given with json := true } rest
  | .plain path :: rest =>
    if given.path.isSome then .error (.unexpected path)
    else readGiven takesJson { given with path := some path } rest

/-- The task of a name, with what is given after it. -/
def readTask (config : Option String) (name : String) (rest : List Item) :
    Except UsageError Asked := do
  let task ← match name with
    | "render" => pure Task.render
    | "values" => pure fun path _ => .values path
    | "nest" => pure fun path _ => .nest path
    | _ => throw (.unknownTask name)
  match ← readGiven (name == "render") {} rest with
  | none => return .help
  | some given =>
    match given.path with
    | none => throw (.missingPath name)
    | some path =>
      return .invocation ⟨given.config.or config, task path given.json⟩

/-- The items before the name of a task, and the task. -/
def readItems (config : Option String) : List Item → Except UsageError Asked
  | [] => .error .noTask
  | .fault error :: _ => .error error
  | .help :: _ => .ok .help
  | .json :: _ => .error (.unexpected "--json")
  | .config path :: rest =>
    if config.isSome then .error (.repeated "--config") else readItems (some path) rest
  | .plain name :: rest =>
    if name = "help" then .ok .help else readTask config name rest

/-- What arguments ask for. -/
def Asked.ofArguments (arguments : List String) : Except UsageError Asked :=
  readItems none (items arguments)

end CaseForm.CommandLine
