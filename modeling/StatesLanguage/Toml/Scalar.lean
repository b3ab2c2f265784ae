import StatesLanguage.Binary64.Notation
import StatesLanguage.Calendar
import StatesLanguage.Document

/-!
# TOML scalars

Booleans, integers of sixty-four bits in four radixes, real numbers, dates and times.
An underscore may stand between two digits.  What counts of a date or a time is only
that it is one.
-/

namespace StatesLanguage

namespace Toml

/-- The digits of a text that satisfies a predicate between single underscores. -/
def separatedDigits? (isDigit : Char → Bool) : List Char → Option (List Char)
  | [] => none
  | [digit] => if isDigit digit then some [digit] else none
  | digit :: '_' :: rest =>
      if isDigit digit then (separatedDigits? isDigit rest).map (digit :: ·) else none
  | digit :: rest =>
      if isDigit digit then (separatedDigits? isDigit rest).map (digit :: ·) else none

/-- Whether a character is a digit of a radix. -/
def isDigitOf (radix : Nat) (character : Char) : Bool :=
  (Text.hexDigit? character).any (· < radix)

/-- The number that the digits of a radix write. -/
def radixValue? (radix : Nat) (text : List Char) : Option Nat := do
  let digits ← separatedDigits? (isDigitOf radix) text
  let values ← digits.mapM Text.hexDigit?
  some (values.foldl (fun value digit => radix * value + digit) 0)

/-- A text without the sign that it may start with, and whether that is negative. -/
def splitSign : List Char → Bool × List Char
  | '-' :: rest => (true, rest)
  | '+' :: rest => (false, rest)
  | text => (false, text)

/-- Whether digits start with a zero that is not all of them. -/
def hasLeadingZero (digits : List Char) : Bool :=
  digits.head? = some '0' && 1 < digits.length

/-- A decimal integer without leading zeros. -/
def decimal? (text : List Char) : Option Int :=
  let (negative, unsigned) := splitSign text
  if hasLeadingZero unsigned then none
  else
    (radixValue? 10 unsigned).map fun magnitude =>
      if negative then -(magnitude : Int) else magnitude

/-- The integer that a text writes, if it takes at most sixty-four bits. -/
def integer? (text : List Char) : Option Int :=
  let value : Option Int :=
    match text with
    | '0' :: 'x' :: digits => (radixValue? 16 digits).map Int.ofNat
    | '0' :: 'o' :: digits => (radixValue? 8 digits).map Int.ofNat
    | '0' :: 'b' :: digits => (radixValue? 2 digits).map Int.ofNat
    | text => decimal? text
  value.filter fun value =>
    -(Number.negativeLimit : Int) ≤ value && value < (Number.negativeLimit : Int)

/-- Splits a text at the first character that satisfies a predicate. -/
def splitAtFirst (isMark : Char → Bool) (text : List Char) :
    List Char × Option (List Char) :=
  match text.dropWhile (!isMark ·) with
  | [] => (text, none)
  | _ :: rest => (text.takeWhile (!isMark ·), some rest)

/-- The digits of a part of a real number; a part that is not there has none. -/
def partDigits? : Option (List Char) → Option (List Char)
  | none => some []
  | some text => separatedDigits? Char.isDigit text

/-- A real number with a fraction, an exponent, or both, and no leading zeros.  One
too large for a finite value is refused, unless it is negative. -/
def finite? (text : List Char) : Option Binary64 := do
  let (negative, unsigned) := splitSign text
  let (mantissa, exponent) := splitAtFirst (fun character =>
    character = 'e' || character = 'E') unsigned
  let (whole, fraction) := splitAtFirst (· = '.') mantissa
  if exponent.isNone && fraction.isNone then none
  else
    let wholeDigits ← separatedDigits? Char.isDigit whole
    let fractionDigits ← partDigits? fraction
    let (negativeExponent, exponentText) := splitSign (exponent.getD ['0'])
    let exponentDigits ← separatedDigits? Char.isDigit exponentText
    if hasLeadingZero whole then none
    else
      let digits := (wholeDigits ++ fractionDigits).filterMap Text.digit?
      let magnitude : Int := Text.ofDigits (exponentDigits.filterMap Text.digit?)
      let power := if negativeExponent then -magnitude else magnitude
      let value :=
        Binary64.ofScaledDigits negative digits (power - fractionDigits.length)
      if value = .infinite false then none else some value

/-- The real number that a text writes, infinities and what is no number among
them. -/
def real? (text : List Char) : Option Binary64 :=
  let (negative, unsigned) := splitSign text
  if unsigned = ['i', 'n', 'f'] then some (.infinite negative)
  else if unsigned = ['n', 'a', 'n'] then some .nan
  else finite? text

/-- The number that exactly two digits write. -/
def pair? (text : List Char) : Option Nat :=
  match text.mapM Text.digit? with
  | some [tens, ones] => some (10 * tens + ones)
  | _ => none

def isDate (text : List Char) : Bool :=
  match text with
  | [a, b, c, d, '-', e, f, '-', g, h] =>
      match [a, b, c, d].mapM Text.digit?, pair? [e, f], pair? [g, h] with
      | some year, some month, some day =>
          CalendarDate.isValid ⟨Text.ofDigits year, month, day⟩
      | _, _, _ => false
  | _ => false

/-- Whether a text is hours and minutes with a colon between them. -/
def isHourAndMinute (text : List Char) : Bool :=
  match text with
  | [a, b, ':', c, d] =>
      (pair? [a, b]).any (· < 24) && (pair? [c, d]).any (· < 60)
  | _ => false

/-- Whether a text is empty, or a point and digits. -/
def isFraction : List Char → Bool
  | [] => true
  | '.' :: digits => !digits.isEmpty && digits.all Char.isDigit
  | _ => false

/-- Whether a text is a time of day, with leap seconds. -/
def isTime (text : List Char) : Bool :=
  match text.drop 5 with
  | ':' :: a :: b :: fraction =>
      isHourAndMinute (text.take 5) && (pair? [a, b]).any (· ≤ 60) && isFraction fraction
  | _ => false

/-- Whether a text is an offset from universal time. -/
def isOffset : List Char → Bool
  | ['Z'] | ['z'] => true
  | '+' :: rest | '-' :: rest => isHourAndMinute rest
  | _ => false

/-- Whether a text is a time of day that an offset may follow. -/
def isTimeWithOffset (text : List Char) : Bool :=
  let time := text.takeWhile fun character =>
    character.isDigit || character = ':' || character = '.'
  isTime time && (time.length = text.length || isOffset (text.drop time.length))

/-- Whether a text is a date, a time of day, or both with an offset. -/
def isMoment (text : List Char) : Bool :=
  isTime text || isDate text ||
    match text.drop 10 with
    | mark :: time =>
        isDate (text.take 10) && (mark = 'T' || mark = 't' || mark = ' ') &&
          isTimeWithOffset time
    | [] => false

/-- A character of a scalar without quotes. -/
def isScalarCharacter (character : Char) : Bool :=
  character.isAlphanum || ['+', '-', '.', '_', ':'].contains character

/-- Takes a scalar without quotes; a date goes on after a blank with a time. -/
def takeScalar (text : List Char) : List Char × List Char :=
  let word := text.takeWhile isScalarCharacter
  let rest := text.dropWhile isScalarCharacter
  match rest with
  | ' ' :: digit :: _ =>
      if isDate word && digit.isDigit then
        let time := (rest.drop 1).takeWhile isScalarCharacter
        (word ++ ' ' :: time, rest.drop (time.length + 1))
      else (word, rest)
  | _ => (word, rest)

/-- A date or a time as a document: an object that has no member anyone asks for. -/
def momentDocument (text : List Char) : Document :=
  .object [("moment", .string (String.ofList text))]

/-- The value of a scalar without quotes. -/
def scalar? (text : List Char) : Option Document :=
  if text = ['t', 'r', 'u', 'e'] then some (.bool true)
  else if text = ['f', 'a', 'l', 's', 'e'] then some (.bool false)
  else if isMoment text then some (momentDocument text)
  else
    match integer? text, real? text with
    | some value, _ => some (.number (.integer value))
    | none, some value => some (.number (.real value))
    | none, none => none

end Toml

end StatesLanguage
