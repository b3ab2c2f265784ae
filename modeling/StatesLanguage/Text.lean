/-!
# Text

Blanks in the sense of the Unicode property White_Space, and texts without the
blanks at their ends.
-/

namespace StatesLanguage

namespace Text

/-- The characters of the Unicode property White_Space. -/
def isBlank (character : Char) : Bool :=
  let code := character.toNat
  (9 ≤ code && code ≤ 13) || code = 32 || code = 0x85 || code = 0xa0 ||
    code = 0x1680 || (0x2000 ≤ code && code ≤ 0x200a) || code = 0x2028 ||
    code = 0x2029 || code = 0x202f || code = 0x205f || code = 0x3000

/-- A text without its leading blanks. -/
def trimStart (text : List Char) : List Char :=
  text.dropWhile isBlank

/-- A text without its leading and trailing blanks. -/
def trim (text : List Char) : List Char :=
  (trimStart (trimStart text).reverse).reverse

end Text

end StatesLanguage
