import StatesLanguage.Call.Evaluation
import StatesLanguage.CommandLine.Invocation
import StatesLanguage.Execution.Run
import StatesLanguage.Machine.File
import StatesLanguage.Settings.Notation

/-!
# Reports

What a command answers.  The files that a command names are looked up in its
`Surroundings`, which also hold the time and the identifiers that a run may need, so a
report depends on nothing else.
-/

namespace StatesLanguage

namespace CommandLine

/-- What a command finds around it. -/
structure Surroundings where
  /-- The content of the files that there are. -/
  file : String → Option ByteArray
  now : Instant
  /-- An identifier for an execution that has none of its own. -/
  freshExecutionId : String
  freshMachineId : String

/-- Why a command fails. -/
inductive Trouble where
  | definition (file : String) (failure : Failure)
  | settingsFile (file : String)
  | settings (file : String)
  | timeScale (value : Binary64)
  | inputFile (file : String)
  | inputFileText (file : String)
  | inputText (detail : String)
  | execution (failure : Failure)
  | evaluation (failure : Failure)

namespace Trouble

def message : Trouble → String
  | .definition file _ => "invalid definition: " ++ file
  | .settingsFile file => "failed to read config " ++ file
  | .settings file => "invalid config " ++ file
  | .timeScale value =>
      "time_scale must be a non-negative number, got " ++
        String.ofList (value.format .positional)
  | .inputFile file => "failed to read input " ++ file
  | .inputFileText file => "input file " ++ file ++ " is not valid JSON"
  | .inputText detail => "--input is not valid JSON: " ++ detail
  | .execution failure =>
      "execution failed (" ++ failure.name ++ "): " ++ failure.message
  | .evaluation failure => failure.message ++ " (" ++ failure.name ++ ")"

/-- What lies behind, of a definition that is refused. -/
def cause? : Trouble → Option String
  | .definition _ failure => some failure.message
  | _ => none

end Trouble

/-- What a command answers. -/
structure Report where
  output : String
  /-- A line about the run. -/
  status : Option String
  /-- The milliseconds that the run takes. -/
  duration : Nat
  deriving DecidableEq, Repr

def Report.ofOutput (output : String) : Report := ⟨output, none, 0⟩

/-- Names a trouble for a failure. -/
def troubled {α : Type} (trouble : Failure → Trouble) :
    Except Failure α → Except Trouble α
  | .ok value => .ok value
  | .error failure => .error (trouble failure)

def loadMachine (surroundings : Surroundings) (file : String) : Except Trouble Machine :=
  troubled (.definition file) (Machine.ofFile file (surroundings.file file))

/-- A text with blanks behind it, at least as long as given. -/
def padRight (width : Nat) (text : String) : String :=
  text ++ String.ofList (List.replicate (width - text.length) ' ')

def summary (file : String) (machine : Machine) : String :=
  let count := String.ofList (Number.digitText machine.states.length)
  "\n  ✓ " ++ file ++ " is valid\n\n  " ++ count ++ " states, starting at '" ++
    machine.startAt ++ "'\n" ++
    String.join (machine.states.map fun (name, state) =>
      "    " ++ padRight 9 state.kind.name ++ " " ++ name ++ "\n") ++ "\n"

def summaryDocument (file : String) (machine : Machine) : Document :=
  .object
    [("file", .string file), ("start_at", .string machine.startAt),
      ("states", .array ((Members.names machine.states).map .string)),
      ("valid", .bool true)]

/-- Reports whether a file holds a valid machine. -/
def reportValidity (surroundings : Surroundings) (style : Style) (file : String) :
    Except Trouble Report := do
  let machine ← loadMachine surroundings file
  if style.quiet then return .ofOutput ""
  else if style.json then
    return .ofOutput ((summaryDocument file machine).indented ++ "\n")
  else return .ofOutput (summary file machine)

/-- The text of a file, if it is there and holds text. -/
def Surroundings.text? (surroundings : Surroundings) (file : String) : Option String :=
  (Machine.textOfFile (surroundings.file file)).toOption

/-- The settings of a file, or the standard ones if there is no file. -/
def loadSettings (surroundings : Surroundings) :
    Option String → Except Trouble Settings
  | none => .ok .standard
  | some file =>
      match surroundings.text? file with
      | none => .error (.settingsFile file)
      | some text =>
          match Settings.ofToml? text with
          | none => .error (.settings file)
          | some settings =>
              if settings.hasUsableTimeScale then .ok settings
              else .error (.timeScale settings.timeScale)

/-- The document that an argument writes. -/
def readInline (text : String) : Except Trouble Document :=
  match Document.read text with
  | .ok document => .ok document
  | .error malformed => .error (.inputText (malformed.message text))

/-- The input of a run. -/
def loadInput (surroundings : Surroundings) : InputSource → Except Trouble Document
  | .absent => .ok .empty
  | .inline text => readInline text
  | .file file =>
      match surroundings.text? file with
      | none => .error (.inputFile file)
      | some text =>
          match Document.read text with
          | .ok document => .ok document
          | .error _ => .error (.inputFileText file)

/-- The resolvers that stubs make; of stubs for one resource the last counts. -/
def stubRegistry (stubs : List (String × Document)) : Registry :=
  stubs.foldl
    (fun registry (resource, value) => registry.register resource (.constant value))
    .empty

/-- A finished run as a document. -/
def completionDocument (completion : Completion) : Document :=
  .object
    [("execution_id", .string completion.executionId), ("output", completion.output),
      ("transitions", .array (completion.transitions.map .string)),
      ("status", .string "Terminated")]

/-- A line about a finished run. -/
def statusLine (completion : Completion) : String :=
  "  ✓ " ++ completion.executionId ++ " (" ++
    String.ofList (Number.digitText completion.transitions.length) ++
    " transitions: " ++ String.intercalate " → " completion.transitions ++ ")"

/-- Shows a finished run. -/
def Report.ofCompletion (style : Style) (duration : Nat) (completion : Completion) :
    Report :=
  if style.json then
    ⟨(completionDocument completion).indented ++ "\n", none, duration⟩
  else
    ⟨completion.output.indented ++ "\n",
      if style.quiet then none else some (statusLine completion), duration⟩

/-- Runs the machine of a file. -/
def reportRun (surroundings : Surroundings) (style : Style) (request : RunRequest) :
    Except Trouble Report := do
  let machine ← loadMachine surroundings request.file
  let settings ← loadSettings surroundings request.settingsFile
  let input ← loadInput surroundings request.input
  let registry := stubRegistry request.stubs
  let environment : Environment Registry :=
    ⟨registry.toResolvers, settings, fun _ => surroundings.now⟩
  let executionId := request.executionId.getD surroundings.freshExecutionId
  let (outcome, progress) :=
    machine.run environment executionId surroundings.freshMachineId input registry
  let completion ← troubled .execution outcome
  return .ofCompletion style progress.journal.elapsed completion

/-- The context document of an expression outside of any run. -/
def inspectionContext (surroundings : Surroundings) (input : Document) : Document :=
  let context : ExecutionContext :=
    ⟨surroundings.freshExecutionId, surroundings.freshExecutionId, input, surroundings.now⟩
  context.forState "Inspect" surroundings.now

/-- Reports what an evaluator makes of an input. -/
def reportValue (surroundings : Surroundings) (style : Style) (inputText : String)
    (evaluate : (input context : Document) → Except Failure Document) :
    Except Trouble Report := do
  let input ← readInline inputText
  let value ← troubled .evaluation (evaluate input (inspectionContext surroundings input))
  return .ofOutput ((if style.json then value.compact else value.indented) ++ "\n")

/-- What an invocation is answered. -/
def Invocation.report (surroundings : Surroundings) (invocation : Invocation) :
    Except Trouble Report :=
  match invocation.command with
  | .validate file => reportValidity surroundings invocation.style file
  | .run request => reportRun surroundings invocation.style request
  | .path expression input =>
      reportValue surroundings invocation.style input fun document context =>
        document.resolve expression context
  | .eval call input =>
      reportValue surroundings invocation.style input fun document context =>
        Call.evaluate document call context

/-- The files that an invocation names. -/
def Invocation.files (invocation : Invocation) : List String :=
  match invocation.command with
  | .validate file => [file]
  | .run request =>
      request.file :: request.settingsFile.toList ++
        (match request.input with
        | .file path => [path]
        | .inline _ | .absent => [])
  | .path _ _ | .eval _ _ => []

end CommandLine

end StatesLanguage
