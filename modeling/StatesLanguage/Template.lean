import StatesLanguage.Call.Evaluation

/-!
# Payload templates

A template is a document in which strings that are paths or calls stand for their
values.  A name that ends in a point and a dollar sign must hold a path or a call,
and loses that ending.  Members are evaluated in order, and of two that end up with
one name the later counts.
-/

namespace StatesLanguage

namespace Template

/-- The value of a string: of a path or a call if it is one, else itself. -/
def evaluateString (text : String) (input context : Document) :
    Except Failure Document :=
  if Path.isPath text then input.resolve text context
  else if Call.isIntrinsic text then Call.evaluate input text context
  else .ok (.string text)

/-- The failure of a dynamic member that holds neither a path nor a call. -/
def notDynamic (name found : String) : Failure :=
  .invalidPath ("field '" ++ name ++ "' must hold a path or intrinsic call, got " ++ found)

/-- Whether a text starts like a call. -/
def startsLikeCall (text : String) : Bool :=
  text.toList.take 7 = ['S', 't', 'a', 't', 'e', 's', '.']

/-- The value of a dynamic member. -/
def evaluateDynamic (name : String) (value input context : Document) :
    Except Failure Document :=
  match value with
  | .string text =>
      if Path.isPath text then input.resolve text context
      else if startsLikeCall text then Call.evaluate input text context
      else .error (notDynamic name ("'" ++ text ++ "'"))
  | other => .error (notDynamic name other.compact)

/-- The name of a dynamic member, without its ending. -/
def dynamicName? (name : String) : Option String :=
  match name.toList.reverse with
  | '$' :: '.' :: rest => some (String.ofList rest.reverse)
  | _ => none

mutual

def evaluate (template input context : Document) : Except Failure Document :=
  match template with
  | .object members => do
      let values ← evaluateMembers members input context
      .ok (Document.ofMembers values)
  | .array items => do
      let values ← evaluateItems items input context
      .ok (.array values)
  | .string text => evaluateString text input context
  | other => .ok other

def evaluateItems (items : List Document) (input context : Document) :
    Except Failure (List Document) :=
  match items with
  | [] => .ok []
  | item :: rest => do
      let value ← evaluate item input context
      let values ← evaluateItems rest input context
      .ok (value :: values)

def evaluateMembers (members : List (String × Document)) (input context : Document) :
    Except Failure (List (String × Document)) :=
  match members with
  | [] => .ok []
  | (name, value) :: rest => do
      let member ←
        match dynamicName? name with
        | some plain => do
            let result ← evaluateDynamic name value input context
            pure (plain, result)
        | none => do
            let result ← evaluate value input context
            pure (name, result)
      let values ← evaluateMembers rest input context
      .ok (member :: values)

end

end Template

end StatesLanguage
