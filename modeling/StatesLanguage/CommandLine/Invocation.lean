import StatesLanguage.CommandLine.Options
import StatesLanguage.Document.Reader

/-!
# Invocations

What a command line asks for: a command with its arguments, and how its result is to
be shown.  The options about that may stand before or after the name of the command.
-/

namespace StatesLanguage

namespace CommandLine

/-- How a result is shown. -/
structure Style where
  json : Bool
  quiet : Bool
  deriving DecidableEq, Repr

/-- Where the input of a run comes from. -/
inductive InputSource where
  | absent
  | inline (text : String)
  | file (path : String)
  deriving DecidableEq, Repr

/-- A run that is asked for. -/
structure RunRequest where
  file : String
  input : InputSource
  executionId : Option String
  settingsFile : Option String
  stubs : List (String × Document)
  deriving DecidableEq

/-- What is asked for. -/
inductive Command where
  | validate (file : String)
  | run (request : RunRequest)
  | path (expression input : String)
  | eval (call input : String)
  deriving DecidableEq

/-- What is asked for, and how the result is shown. -/
structure Invocation where
  style : Style
  command : Command
  deriving DecidableEq

/-- Any value is accepted. -/
def anyText (_ : String) : Bool := true

/-- A path has a character at least. -/
def isPathText (text : String) : Bool :=
  text ≠ ""

/-- The resource and the result that a stub writes: a name that is not empty, an equals
sign, and a JSON text. -/
def readStub? (text : String) : Option (String × Document) :=
  match splitAtEquals text.toList with
  | (resource, some value) =>
      if resource.isEmpty then none
      else
        match Document.read (String.ofList value) with
        | .ok document => some (String.ofList resource, document)
        | .error _ => none
  | (_, none) => none

/-- The options that every command takes. -/
def commonOptions : List OptionForm :=
  [.flag "json" none, .flag "quiet" (some 'q'),
    { OptionForm.flag "verbose" (some 'v') with repeatable := true },
    .flag "otel" none, .flag "help" (some 'h'), .flag "version" (some 'V')]

def commandNames : List String := ["validate", "run", "path", "eval"]

/-- What comes before the name of a command. -/
def programForm : CommandForm := ⟨commonOptions, []⟩

/-- What a command takes besides. -/
def commandForm (command : String) : CommandForm :=
  if command = "validate" then ⟨commonOptions, [("file", isPathText)]⟩
  else if command = "run" then
    ⟨commonOptions ++
      [.valued "input" anyText, .valued "input-file" isPathText,
        .valued "execution-id" anyText, .valued "config" isPathText,
        { OptionForm.valued "stub" (fun text => (readStub? text).isSome) with
          repeatable := true }],
      [("file", isPathText)]⟩
  else if command = "path" then
    ⟨commonOptions ++ [.valued "input" anyText], [("expression", anyText)]⟩
  else ⟨commonOptions ++ [.valued "input" anyText], [("call", anyText)]⟩

/-- Refuses two options that exclude each other. -/
def checkConflict (given : Given) (first second : String) : Except UsageFault Unit :=
  if given.has first && given.has second then .error (.conflictingOptions first second)
  else .ok ()

/-- The style that is asked for before and after the name of a command. -/
def styleOf (before after : Given) : Style where
  json := before.has "json" || after.has "json"
  quiet := before.has "quiet" || after.has "quiet"

/-- The argument of a command that takes one. -/
def onlyArgument (form : CommandForm) (given : Given) : Except UsageFault String :=
  match given.arguments, form.arguments with
  | argument :: _, _ => .ok argument
  | [], (name, _) :: _ => .error (.missingArgument name)
  | [], [] => .error .missingCommand

/-- The source of the input of a run. -/
def inputSource (given : Given) : InputSource :=
  match given.value? "input-file", given.value? "input" with
  | some path, _ => .file path
  | none, some text => .inline text
  | none, none => .absent

/-- The settings file of a run: the one that is given, else the one of the
environment. -/
def settingsFile (environment : Option String) (given : Given) :
    Except UsageFault (Option String) :=
  match given.value? "config", environment with
  | some path, _ => .ok (some path)
  | none, some path =>
      if isPathText path then .ok (some path) else .error (.unusableValue "config" path)
  | none, none => .ok none

def commandOf (environment : Option String) (name argument : String) (given : Given) :
    Except UsageFault Command := do
  if name = "validate" then .ok (.validate argument)
  else if name = "run" then
    checkConflict given "input" "input-file"
    let settingsFile ← settingsFile environment given
    .ok (.run
      { file := argument
        input := inputSource given
        executionId := given.value? "execution-id"
        settingsFile
        stubs := (given.values "stub").filterMap readStub? })
  else if name = "path" then
    .ok (.path argument ((given.value? "input").getD "\x7b\x7d"))
  else .ok (.eval argument ((given.value? "input").getD "\x7b\x7d"))

/-- What a question is about: the program, or one of its commands. -/
inductive Topic where
  | program
  | command (name : String)
  deriving DecidableEq, Repr

/-- What comes of a command line. -/
inductive Reading where
  | invocation (invocation : Invocation)
  | help (topic : Topic)
  | version (topic : Topic)
  | fault (fault : UsageFault)

/-- What comes of reading that was interrupted. -/
def Reading.ofInterruption (topic : Topic) : Interruption → Reading
  | .fault cause => .fault cause
  | .help => .help topic
  | .version => .version topic

/-- What comes of a question for help with some words behind it. -/
def readHelp : List String → Reading
  | [] => .help .program
  | [name] =>
      if commandNames.contains name || name = "help" then .help (.command name)
      else .fault (.unknownCommand name)
  | name :: word :: _ =>
      if commandNames.contains name then .fault (.unknownCommand word)
      else .fault (.unknownCommand name)

/-- Reads the words after the name of a command.  Options that exclude each other may
stand on different sides of the name. -/
def readCommand (environment : Option String) (before : Given) (name : String)
    (words : List String) : Reading :=
  let form := commandForm name
  match readWords form none false .nothing words with
  | .error interruption => .ofInterruption (.command name) interruption
  | .ok (given, _) =>
      let invocation : Except UsageFault Invocation := do
        checkConflict given "otel" "json"
        let argument ← onlyArgument form given
        let command ← commandOf environment name argument given
        checkConflict before "otel" "json"
        return ⟨styleOf before given, command⟩
      match invocation with
      | .ok invocation => .invocation invocation
      | .error fault => .fault fault

/-- Reads a command line; `environment` names the settings file that holds if none is
given. -/
def Reading.ofWords (environment : Option String) (words : List String) : Reading :=
  match readWords programForm none false .nothing words with
  | .error interruption => .ofInterruption .program interruption
  | .ok (_, []) => .fault .missingCommand
  | .ok (before, name :: rest) =>
      if commandNames.contains name then readCommand environment before name rest
      else if name = "help" then readHelp rest
      else .fault (.unknownCommand name)

end CommandLine

end StatesLanguage
