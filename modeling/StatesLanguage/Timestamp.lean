import StatesLanguage.Document.Number
import StatesLanguage.Instant
import StatesLanguage.Text
import StatesLanguage.Text.Digit

/-!
# Timestamps

Texts that name instants.  A strict timestamp has fields of fixed width and an
offset from universal time; a lax one has no offset, may have blanks before its
numbers and leave out leading zeros.  `Timestamp.isTimestamp` is the shape that a
type test accepts, and `Timestamp.text` the text of an instant.
-/

namespace StatesLanguage

namespace Timestamp

/-- The number that the digits at the start of a text write, at least `least` and at
most `most` of them, and the text after them. -/
def readNumber (least most : Nat) (text : List Char) : Option (Nat × List Char) :=
  let digits := (Text.takeDigits text).1.take most
  if digits.length < least then none
  else some (Text.ofDigits digits, text.drop digits.length)

/-- The text after a given character. -/
def expect (expected : Char) : List Char → Option (List Char)
  | character :: rest => if character = expected then some rest else none
  | [] => none

/-- Nanoseconds that the digits of a fraction write; from the tenth on they are
ignored. -/
def nanosecondsOf (digits : List Nat) : Nat :=
  let kept := digits.take 9
  Text.ofDigits kept * tenTo (9 - kept.length)

/-- The fraction of a second, if there is one: a point and at least one digit. -/
def readFraction : List Char → Option (Nat × List Char)
  | '.' :: text =>
      match Text.takeDigits text with
      | ([], _) => none
      | (digits, rest) => some (nanosecondsOf digits, rest)
  | text => some (0, text)

/-- Years that dates may have. -/
def yearInRange (year : Int) : Bool :=
  -262143 ≤ year && year ≤ 262142

/-- The time, if there is such a time. -/
def valid? (time : CivilTime) : Option CivilTime :=
  if yearInRange time.date.year && time.isValid then some time else none

/-- The seconds of an offset from universal time. -/
def readOffset : List Char → Option Int
  | ['Z'] | ['z'] => some 0
  | sign :: text => do
      let negative ←
        if sign = '+' then some false
        else if sign = '-' ∨ sign = '\u2212' then some true
        else none
      let (hours, text) ← readNumber 2 2 text
      let text ← expect ':' text
      let (minutes, text) ← readNumber 2 2 text
      if hours ≤ 23 ∧ minutes ≤ 59 ∧ text.isEmpty then
        let seconds : Int := (3600 * hours + 60 * minutes : Nat)
        some (if negative then -seconds else seconds)
      else none
  | [] => none

/-- The separator between a date and a time of day. -/
def readSeparator : List Char → Option (List Char)
  | character :: rest =>
      if character = 'T' ∨ character = 't' ∨ character = ' ' then some rest else none
  | [] => none

/-- A strict timestamp: fields of fixed width, an optional fraction, an offset. -/
def readStrict (text : List Char) : Option Instant := do
  let (year, text) ← readNumber 4 4 text
  let text ← expect '-' text
  let (month, text) ← readNumber 2 2 text
  let text ← expect '-' text
  let (day, text) ← readNumber 2 2 text
  let text ← readSeparator text
  let (hour, text) ← readNumber 2 2 text
  let text ← expect ':' text
  let (minute, text) ← readNumber 2 2 text
  let text ← expect ':' text
  let (second, text) ← readNumber 2 2 text
  let (nanoseconds, text) ← readFraction text
  let offset ← readOffset text
  let time ← valid? ⟨⟨year, month, day⟩, hour, minute, second, nanoseconds⟩
  pure (time.toInstant.addSeconds (-offset))

/-- A number of one or two digits after any blanks. -/
def readLaxNumber (text : List Char) : Option (Nat × List Char) :=
  readNumber 1 2 (Text.trimStart text)

/-- A year after any blanks: up to four digits, or a sign and any number of them. -/
def readLaxYear (text : List Char) : Option (Int × List Char) :=
  match Text.trimStart text with
  | '-' :: digits =>
      (readNumber 1 digits.length digits).map fun (year, rest) => (-(year : Int), rest)
  | '+' :: digits =>
      (readNumber 1 digits.length digits).map fun (year, rest) => ((year : Int), rest)
  | digits => (readNumber 1 4 digits).map fun (year, rest) => ((year : Int), rest)

/-- A lax timestamp, without an offset. -/
def readLax (text : List Char) : Option Instant := do
  let (year, text) ← readLaxYear text
  let text ← expect '-' text
  let (month, text) ← readLaxNumber text
  let text ← expect '-' text
  let (day, text) ← readLaxNumber text
  let text ← expect 'T' text
  let (hour, text) ← readLaxNumber text
  let text ← expect ':' text
  let (minute, text) ← readLaxNumber text
  let text ← expect ':' text
  let (second, text) ← readLaxNumber text
  let (nanoseconds, text) ← readFraction text
  if text.isEmpty then
    let time ← valid? ⟨⟨year, month, day⟩, hour, minute, second, nanoseconds⟩
    pure time.toInstant
  else none

/-- The instant that a text names: strictly if it can be, else laxly. -/
def read? (text : String) : Option Instant :=
  match readStrict text.toList with
  | some instant => some instant
  | none => readLax text.toList

/-- A number of two digits between two bounds. -/
def readField (least most : Nat) (text : List Char) : Option (List Char) := do
  let (value, rest) ← readNumber 2 2 text
  if least ≤ value ∧ value ≤ most then some rest else none

/-- The text after a year of at least four digits, with a leading zero only if there
are exactly four. -/
def readShapedYear (text : List Char) : Option (List Char) :=
  let unsigned := match text with
    | '-' :: rest => rest
    | other => other
  let digits := (Text.takeDigits unsigned).1
  let wellFormed := match digits with
    | [_, _, _, _] => true
    | first :: _ => 4 < digits.length && first ≠ 0
    | [] => false
  if wellFormed then some (unsigned.drop digits.length) else none

/-- Whether a fraction and a final `Z`, both optional, are all of a text. -/
def isShapedEnd (text : List Char) : Bool :=
  match readFraction text with
  | some (_, []) | some (_, ['Z']) => true
  | _ => false

/-- The shape of a timestamp: fields in range, whether or not the date exists. -/
def isTimestamp (text : String) : Bool :=
  let rest := do
    let text ← readShapedYear text.toList
    let text ← expect '-' text
    let text ← readField 1 12 text
    let text ← expect '-' text
    let text ← readField 1 31 text
    let text ← expect 'T' text
    let text ← readField 0 23 text
    let text ← expect ':' text
    let text ← readField 0 59 text
    let text ← expect ':' text
    readField 0 59 text
  rest.any isShapedEnd

/-- Decimal digits with zeros before them, up to a width. -/
def padded (width value : Nat) : List Char :=
  let digits := Number.digitText value
  List.replicate (width - digits.length) '0' ++ digits

/-- Text of a year: four digits, with a sign outside the years 0 to 9999. -/
def yearText (year : Int) : List Char :=
  if 0 ≤ year ∧ year ≤ 9999 then padded 4 year.toNat
  else (if year < 0 then '-' else '+') :: padded 4 year.natAbs

/-- Text of a date and time, to the millisecond. -/
def civilText (time : CivilTime) : List Char :=
  yearText time.date.year ++ '-' :: padded 2 time.date.month ++ '-' ::
    padded 2 time.date.day ++ 'T' :: padded 2 time.hour ++ ':' ::
    padded 2 time.minute ++ ':' :: padded 2 time.second ++ '.' ::
    padded 3 (time.nanoseconds / 1000000) ++ ['Z']

/-- Text of an instant in universal time, to the millisecond. -/
def text (instant : Instant) : String :=
  String.ofList (civilText (CivilTime.ofInstant instant))

end Timestamp

end StatesLanguage
