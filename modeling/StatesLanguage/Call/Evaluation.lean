import StatesLanguage.Call
import StatesLanguage.Call.Arguments
import StatesLanguage.Path.Access

/-!
# Evaluating calls

A call is `States.`, a name of letters, and an argument list in parentheses that is
neither empty nor broken by a line feed.  An argument is a path, a text in single
quotes, or document text.
-/

namespace StatesLanguage

/-- A call as it is written: the name of the function and its argument list. -/
structure Call where
  name : String
  arguments : List Char
  deriving DecidableEq, Repr

namespace Call

def isLetter (character : Char) : Bool :=
  ('a' ≤ character && character ≤ 'z') || ('A' ≤ character && character ≤ 'Z')

/-- The argument list between an opening parenthesis and the last character, which
closes it. -/
def enclosed? : List Char → Option (List Char)
  | '(' :: rest =>
      match rest.reverse with
      | ')' :: inside =>
          if inside.isEmpty || inside.contains '\n' then none else some inside.reverse
      | _ => none
  | _ => none

/-- A call without the word before its point. -/
def afterNamespace? (text : List Char) : Option Call :=
  let name := text.takeWhile isLetter
  if name.isEmpty then none
  else (enclosed? (text.dropWhile isLetter)).map (Call.mk (String.ofList name))

def read? (text : String) : Option Call :=
  match text.toList with
  | 'S' :: 't' :: 'a' :: 't' :: 'e' :: 's' :: '.' :: rest => afterNamespace? rest
  | _ => none

/-- Whether a text is a call of a function that exists. -/
def isIntrinsic (text : String) : Bool :=
  match read? text with
  | some call => (Intrinsic.ofName? call.name).isSome
  | none => false

/-- A text in single quotes, without its escapes: a backslash before a single quote
or a backslash stands for that character, and any other backslash for itself. -/
def unescape : List Char → List Char
  | '\x5c' :: '\x27' :: rest => '\x27' :: unescape rest
  | '\x5c' :: '\x5c' :: rest => '\x5c' :: unescape rest
  | '\x5c' :: character :: rest => '\x5c' :: character :: unescape rest
  | character :: rest => character :: unescape rest
  | [] => []

/-- The inside of a text that starts and ends with a single quote. -/
def quotedInside? : List Char → Option (List Char)
  | '\x27' :: rest =>
      match rest.reverse with
      | '\x27' :: inside => some inside.reverse
      | _ => none
  | _ => none

def evaluateArgument (document context : Document) (argument : List Char) :
    Except Failure Document :=
  let text := String.ofList argument
  if Path.isPath text then document.resolve text context
  else
    match quotedInside? argument with
    | some inside => .ok (.string (String.ofList (unescape inside)))
    | none =>
        match Document.read text with
        | .ok value => .ok value
        | .error malformed =>
            .error (.invalidFunction
              ("bad argument " ++ text ++ ": " ++ malformed.message text))

/-- The values of arguments in order; the first failure counts. -/
def evaluateArguments (document context : Document) :
    List (List Char) → Except Failure (List Document)
  | [] => .ok []
  | argument :: rest => do
      let value ← evaluateArgument document context argument
      let values ← evaluateArguments document context rest
      .ok (value :: values)

/-- The value of a call against a document and a context. -/
def evaluate (document : Document) (text : String) (context : Document) :
    Except Failure Document :=
  match read? text with
  | none => .error (.invalidFunction ("malformed call: " ++ text))
  | some call => do
      let function ← Intrinsic.ofName call.name
      let parts ← (Arguments.split call.arguments).mapError
        (·.toFailure (String.ofList call.arguments))
      let values ← evaluateArguments document context parts
      function.apply values

end Call

end StatesLanguage
