import StatesLanguage.Failure

/-!
# Intrinsic functions

The four functions that a template may call, on arguments that are already
evaluated.
-/

namespace StatesLanguage

/-- An intrinsic function. -/
inductive Intrinsic where
  | format
  | jsonToString
  | stringToJson
  | array
  deriving DecidableEq, Repr

namespace Intrinsic

def name : Intrinsic → String
  | .format => "Format"
  | .jsonToString => "JsonToString"
  | .stringToJson => "StringToJson"
  | .array => "Array"

def ofName? (name : String) : Option Intrinsic :=
  [Intrinsic.format, .jsonToString, .stringToJson, .array].find? (·.name = name)

/-- The function of that name, or the failure that there is none. -/
def ofName (name : String) : Except Failure Intrinsic :=
  match ofName? name with
  | some function => .ok function
  | none => .error (.invalidFunction ("unknown intrinsic 'States." ++ name ++ "'"))

/-- A value inside a formatted text: a string as it is, anything else as compact
document text. -/
def rendered : Document → List Char
  | .string value => value.toList
  | other => other.compactText

/-- Fills the placeholders, an opening and a closing brace, from left to right.
A placeholder without a value stays, and what was filled in is not read again. -/
def fill : List Char → List Document → List Char
  | [], _ => []
  | '\x7b' :: '\x7d' :: rest, value :: values => rendered value ++ fill rest values
  | character :: rest, values => character :: fill rest values

/-- Fills the placeholders of the first argument with the others. -/
def applyFormat : List Document → Except Failure Document
  | [] => .error (.invalidFunction "States.Format requires a template")
  | .string template :: values =>
      .ok (.string (String.ofList (fill template.toList values)))
  | other :: _ =>
      .error (.invalidFunction
        ("States.Format template must be a string, got " ++ other.compact))

/-- The only argument of a function that takes one. -/
def single (function : Intrinsic) : List Document → Except Failure Document
  | [value] => .ok value
  | values =>
      .error (.invalidFunction
        ("States." ++ function.name ++ " takes exactly one argument, got " ++
          String.ofList (Number.digitText values.length)))

def parseText : Document → Except Failure Document
  | .string text =>
      match Document.read text with
      | .ok value => .ok value
      | .error malformed =>
          .error (.invalidFunction ("States.StringToJson: " ++ malformed.message text))
  | other =>
      .error (.invalidFunction
        ("States.StringToJson expects a string, got " ++ other.compact))

/-- The value of a function at its arguments. -/
def apply (function : Intrinsic) (arguments : List Document) :
    Except Failure Document :=
  match function with
  | .format => applyFormat arguments
  | .jsonToString => do
      let value ← single function arguments
      .ok (.string value.compact)
  | .stringToJson => do
      let value ← single function arguments
      parseText value
  | .array => .ok (.array arguments)

end Intrinsic

end StatesLanguage
