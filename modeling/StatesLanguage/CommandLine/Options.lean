/-!
# Options on a command line

Options start with two hyphens and a name, or with one hyphen and letters.  The value
of an option follows an equals sign or is the next word.  Every other word is an
argument, and so is every word after a lone pair of hyphens.
-/

namespace StatesLanguage

namespace CommandLine

/-- Why a command line is refused. -/
inductive UsageFault where
  | unknownOption (word : String)
  | unexpectedValue (name : String)
  | missingValue (name : String)
  | unusableValue (name value : String)
  | repeatedOption (name : String)
  | conflictingOptions (first second : String)
  | unexpectedArgument (word : String)
  | missingArgument (name : String)
  | unknownCommand (word : String)
  | missingCommand
  deriving DecidableEq, Repr

namespace UsageFault

def named (word : String) : String := "'" ++ word ++ "'"

def message : UsageFault → String
  | .unknownOption word => "unknown option " ++ named word
  | .unexpectedValue name => "option " ++ named name ++ " takes no value"
  | .missingValue name => "option " ++ named name ++ " needs a value"
  | .unusableValue name value => named value ++ " is no value for " ++ named name
  | .repeatedOption name => "option " ++ named name ++ " may be given once only"
  | .conflictingOptions first second =>
      "options " ++ named first ++ " and " ++ named second ++ " exclude each other"
  | .unexpectedArgument word => "unexpected argument " ++ named word
  | .missingArgument name => "argument " ++ named name ++ " is missing"
  | .unknownCommand word => "unknown command " ++ named word
  | .missingCommand => "a command is missing"

end UsageFault

/-- An option: its name, its letter if it has one, whether it takes a value and may be
repeated, and the values that it accepts. -/
structure OptionForm where
  name : String
  letter : Option Char
  takesValue : Bool
  repeatable : Bool
  accepts : String → Bool

namespace OptionForm

def flag (name : String) (letter : Option Char) : OptionForm :=
  ⟨name, letter, false, false, fun _ => true⟩

def valued (name : String) (accepts : String → Bool) : OptionForm :=
  ⟨name, none, true, false, accepts⟩

end OptionForm

/-- What a command takes: options, and arguments by name with the values that each
accepts. -/
structure CommandForm where
  options : List OptionForm
  arguments : List (String × (String → Bool))

/-- What was given on a command line: options with their values, the empty one if they
take none, and arguments, both in order. -/
structure Given where
  options : List (String × String)
  arguments : List String
  deriving DecidableEq, Repr

namespace Given

/-- Nothing was given. -/
def nothing : Given := ⟨[], []⟩

def has (given : Given) (name : String) : Bool :=
  given.options.any (·.1 = name)

def values (given : Given) (name : String) : List String :=
  (given.options.filter (·.1 = name)).map (·.2)

/-- The value of an option that was given once. -/
def value? (given : Given) (name : String) : Option String :=
  (given.values name).head?

def addOption (given : Given) (form : OptionForm) (value : String) :
    Except UsageFault Given :=
  if !form.repeatable && given.has form.name then .error (.repeatedOption form.name)
  else if form.accepts value then
    .ok { given with options := given.options ++ [(form.name, value)] }
  else .error (.unusableValue form.name value)

/-- Adds an argument, if the command takes one more. -/
def addArgument (given : Given) (form : CommandForm) (word : String) :
    Except UsageFault Given :=
  match form.arguments[given.arguments.length]? with
  | none => .error (.unexpectedArgument word)
  | some (name, accepts) =>
      if accepts word then .ok { given with arguments := given.arguments ++ [word] }
      else .error (.unusableValue name word)

end Given

/-- A word of a command line. -/
inductive Word where
  | separator
  | long (name : String) (value : Option String)
  | letters (letters : List Char)
  | plain (text : String)
  deriving DecidableEq, Repr

def splitAtEquals (text : List Char) : List Char × Option (List Char) :=
  match text.dropWhile (· ≠ '=') with
  | [] => (text, none)
  | _ :: value => (text.takeWhile (· ≠ '='), some value)

/-- What a word is. -/
def Word.ofString (word : String) : Word :=
  match word.toList with
  | ['-', '-'] => .separator
  | '-' :: '-' :: text =>
      let (name, value) := splitAtEquals text
      .long (String.ofList name) (value.map String.ofList)
  | '-' :: letter :: rest => .letters (letter :: rest)
  | _ => .plain word

/-- What stops reading before the end: a fault, or a question about the program. -/
inductive Interruption where
  | fault (fault : UsageFault)
  | help
  | version
  deriving DecidableEq, Repr

/-- The names of the options that ask about the program. -/
def question? (name : String) : Option Interruption :=
  if name = "help" then some .help
  else if name = "version" then some .version
  else none

/-- Raises a fault as an interruption. -/
def faulty {α : Type} : Except UsageFault α → Except Interruption α
  | .ok value => .ok value
  | .error fault => .error (.fault fault)

/-- Reads the letters behind one hyphen. -/
def readLetters (form : CommandForm) :
    Given → List Char → Except Interruption Given
  | given, [] => .ok given
  | given, letter :: rest =>
      match form.options.find? (·.letter = some letter) with
      | none => .error (.fault (.unknownOption (String.ofList [letter])))
      | some option =>
          match question? option.name with
          | some question => .error question
          | none => do
              let given ← faulty (given.addOption option "")
              readLetters form given rest

/-- Reads an option with its name; it waits for its value if that is the next word. -/
def readLong (form : CommandForm) (given : Given) (name : String)
    (value : Option String) : Except Interruption (Given × Option OptionForm) :=
  match form.options.find? (·.name = name) with
  | none => .error (.fault (.unknownOption name))
  | some option =>
      match option.takesValue, value with
      | true, some value => (faulty (given.addOption option value)).map (·, none)
      | true, none => .ok (given, some option)
      | false, some _ => .error (.fault (.unexpectedValue name))
      | false, none =>
          match question? option.name with
          | some question => .error question
          | none => (faulty (given.addOption option "")).map (·, none)

/-- Reads the words of a command.  `waiting` is an option that waits for its value.  A
command without arguments stops at the first word that would be one and leaves it. -/
def readWords (form : CommandForm) :
    (waiting : Option OptionForm) → (separated : Bool) → Given → List String →
      Except Interruption (Given × List String)
  | some option, _, _, [] => .error (.fault (.missingValue option.name))
  | none, _, given, [] => .ok (given, [])
  | waiting, true, given, word :: rest => do
      let given ← faulty (given.addArgument form word)
      readWords form waiting true given rest
  | some option, false, given, word :: rest =>
      match Word.ofString word with
      | .plain value => do
          let given ← faulty (given.addOption option value)
          readWords form none false given rest
      | _ => .error (.fault (.missingValue option.name))
  | none, false, given, word :: rest =>
      match Word.ofString word with
      | .separator => readWords form none true given rest
      | .long name value => do
          let (given, waiting) ← readLong form given name value
          readWords form waiting false given rest
      | .letters letters => do
          let given ← readLetters form given letters
          readWords form none false given rest
      | .plain text =>
          if form.arguments.isEmpty then .ok (given, text :: rest)
          else do
            let given ← faulty (given.addArgument form text)
            readWords form none false given rest

end CommandLine

end StatesLanguage
