import StatesLanguage.Text.Invisible

/-!
# Quoted text

Text between double quotes, for a reader to look at: the quote and the backslash
are escaped, and so is every character without a visible form.
-/

namespace StatesLanguage

namespace Text

/-- A character inside quoted text. -/
def quotedCharacter (character : Char) : List Char :=
  if character = '\x00' then ['\x5c', '0']
  else if character = '\t' then ['\x5c', 't']
  else if character = '\r' then ['\x5c', 'r']
  else if character = '\n' then ['\x5c', 'n']
  else if character = '\x22' then ['\x5c', '\x22']
  else if character = '\x5c' then ['\x5c', '\x5c']
  else if isInvisible character then
    ['\x5c', 'u', '\x7b'] ++ Nat.toDigits 16 character.toNat ++ ['\x7d']
  else [character]

def quoted (text : String) : String :=
  String.ofList ('\x22' :: text.toList.flatMap quotedCharacter ++ ['\x22'])

/-- Quoted texts between brackets, separated by commas. -/
def quotedList (texts : List String) : String :=
  "[" ++ String.intercalate ", " (texts.map quoted) ++ "]"

end Text

end StatesLanguage
