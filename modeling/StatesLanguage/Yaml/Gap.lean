import StatesLanguage.Yaml.Character

/-!
# Gaps between words

Inside plain and quoted scalars a run of blanks and line breaks folds: blanks alone
stay, one line break becomes a space, and of several the first one goes.
-/

namespace StatesLanguage

namespace Yaml

/-- What stands between two words of a scalar.  Blanks beside a line break do not
count; a gap that an escaped line break opens is `continued`. -/
inductive Gap where
  | blanks (characters : List Char)
  | breaks (characters : List Char)
  | continued (characters : List Char)
  deriving DecidableEq, Repr

namespace Gap

def empty : Gap := .blanks []

def isEmpty : Gap → Bool
  | .blanks characters => characters.isEmpty
  | .breaks _ | .continued _ => false

def hasBreak : Gap → Bool
  | .blanks _ => false
  | .breaks _ | .continued _ => true

/-- A gap with one more blank or line break. -/
def add (gap : Gap) (character : Char) : Gap :=
  match gap with
  | .blanks before =>
      if isBreak character then .breaks [character] else .blanks (before ++ [character])
  | .breaks before =>
      if isBreak character then .breaks (before ++ [character]) else gap
  | .continued before =>
      if isBreak character then .continued (before ++ [character]) else gap

/-- The text that a gap folds to. -/
def text : Gap → List Char
  | .blanks characters => characters
  | .breaks ['\n'] => [' ']
  | .breaks ('\n' :: rest) => rest
  | .breaks characters => characters
  | .continued characters => characters

end Gap

/-- Puts text before a text that was read. -/
def prependText (text : List Char) (reading : Option (List Char × List Placed)) :
    Option (List Char × List Placed) :=
  reading.map fun (characters, rest) => (text ++ characters, rest)

end Yaml

end StatesLanguage
