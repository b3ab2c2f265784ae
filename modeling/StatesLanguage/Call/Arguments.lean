import StatesLanguage.Text
import StatesLanguage.Failure

/-!
# Argument lists

An argument list is split at the commas that stand outside quotes and outside
brackets and braces.  `Scan` is what a position in the list is inside of, and the
splitter reads the list once.
-/

namespace StatesLanguage

namespace Arguments

/-- What a position in an argument list is inside of: containers only, a quoted
text, or a quoted text right after a backslash. -/
inductive Scan where
  | plain (depth : Nat)
  | quoted (quote : Char) (depth : Nat)
  | escaped (quote : Char) (depth : Nat)
  deriving DecidableEq, Repr

/-- What a character does at a position. -/
inductive Effect where
  | inside (next : Scan)
  | separates
  | unbalanced
  deriving DecidableEq, Repr

/-- One character of an argument list. -/
def Scan.step (scan : Scan) (character : Char) : Effect :=
  match scan with
  | .escaped quote depth => .inside (.quoted quote depth)
  | .quoted quote depth =>
      if character = '\x5c' then .inside (.escaped quote depth)
      else if character = quote then .inside (.plain depth)
      else .inside (.quoted quote depth)
  | .plain depth =>
      if character = '\x27' ∨ character = '\x22' then .inside (.quoted character depth)
      else if character = '\x7b' ∨ character = '[' then .inside (.plain (depth + 1))
      else if character = '\x7d' ∨ character = ']' then
        match depth with
        | 0 => .unbalanced
        | depth + 1 => .inside (.plain depth)
      else if character = ',' ∧ depth = 0 then .separates
      else .inside (.plain depth)

/-- Why a text is no argument list. -/
inductive Fault where
  | unbalanced (closing : Char)
  | unterminated
  | emptyArgument
  deriving DecidableEq, Repr

/-- The failure of an argument list. -/
def Fault.toFailure (fault : Fault) (raw : String) : Failure :=
  .invalidFunction <|
    match fault with
    | .unbalanced closing =>
        "unbalanced '" ++ String.ofList [closing] ++ "' in arguments: " ++ raw
    | .unterminated => "unterminated argument list: " ++ raw
    | .emptyArgument => "empty argument in: " ++ raw

/-- Puts a character before the first of some parts. -/
def prepend (character : Char) : List (List Char) → List (List Char)
  | [] => [[character]]
  | part :: rest => (character :: part) :: rest

/-- The parts between separating commas, from a position on. -/
def splitFrom : Scan → List Char → Except Fault (List (List Char))
  | .plain 0, [] => .ok [[]]
  | _, [] => .error .unterminated
  | scan, character :: rest =>
      match scan.step character with
      | .inside next => (splitFrom next rest).map (prepend character)
      | .separates => (splitFrom (.plain 0) rest).map ([] :: ·)
      | .unbalanced => .error (.unbalanced character)

/-- The arguments of a list, without the blanks around them.  No argument may be
empty. -/
def split (raw : List Char) : Except Fault (List (List Char)) := do
  let parts ← splitFrom (.plain 0) raw
  let arguments := parts.map Text.trim
  if arguments.any (·.isEmpty) then .error .emptyArgument
  else .ok arguments

end Arguments

end StatesLanguage
