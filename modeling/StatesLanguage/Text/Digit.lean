/-!
# Digits

The values of ASCII digits, the digits that a text starts with, and the number that
digits write.
-/

namespace StatesLanguage

namespace Text

def digit? (character : Char) : Option Nat :=
  if '0' ≤ character ∧ character ≤ '9' then some (character.toNat - 48) else none

/-- The value of a hexadecimal digit of either case. -/
def hexDigit? (character : Char) : Option Nat :=
  if '0' ≤ character ∧ character ≤ '9' then some (character.toNat - 48)
  else if 'a' ≤ character ∧ character ≤ 'f' then some (character.toNat - 87)
  else if 'A' ≤ character ∧ character ≤ 'F' then some (character.toNat - 55)
  else none

/-- The number whose decimal digits are given. -/
def ofDigits (digits : List Nat) : Nat :=
  digits.foldl (fun value digit => 10 * value + digit) 0

/-- The digits at the start of a text, and the text after them. -/
def takeDigits : List Char → List Nat × List Char
  | [] => ([], [])
  | character :: rest =>
      match digit? character with
      | some digit => let (digits, text) := takeDigits rest; (digit :: digits, text)
      | none => ([], character :: rest)

end Text

end StatesLanguage
