import StatesLanguage.Binary64.Notation
import StatesLanguage.Document

/-!
# Values of YAML scalars

A plain scalar is a null, a boolean, an integer or a real number if it is written as
one, and a string otherwise.  Digits after a leading zero are a string, and so is what
is too large for a finite real number; an integer that a document cannot hold is an
error up to 128 bits and a real number beyond.
-/

namespace StatesLanguage

namespace Yaml

/-- The spellings of null, besides nothing at all. -/
def isNullText (text : String) : Bool :=
  ["null", "Null", "NULL", "~"].contains text

/-- The value of a spelling of a boolean. -/
def boolean? (text : String) : Option Bool :=
  if ["true", "True", "TRUE"].contains text then some true
  else if ["false", "False", "FALSE"].contains text then some false
  else none

/-- The number that digits of a radix write, of which there must be some. -/
def natural? (radix : Nat) (digits : List Char) : Option Nat :=
  if digits.isEmpty then none
  else
    (digits.mapM fun character =>
      (Text.hexDigit? character).filter (· < radix)).map
        fun values => values.foldl (fun value digit => radix * value + digit) 0

/-- Whether a text is at least two digits of which the first is a zero, after one
sign. -/
def hasLeadingZero (text : List Char) : Bool :=
  let digits :=
    match text with
    | '+' :: rest | '-' :: rest => rest
    | rest => rest
  1 < digits.length && digits.head? = some '0' && digits.all Char.isDigit

/-- The magnitude of an integer without a sign: digits, or a radix and its digits. -/
def magnitude? (text : List Char) : Option Nat :=
  let radix? : Option Nat :=
    match text with
    | '0' :: 'x' :: digits => natural? 16 digits
    | '0' :: 'o' :: digits => natural? 8 digits
    | '0' :: 'b' :: digits => natural? 2 digits
    | _ => none
  radix? <|> if hasLeadingZero text then none else natural? 10 text

/-- The integer that a text writes. -/
def integer? : List Char → Option Int
  | '-' :: text => (magnitude? text).map fun magnitude => -(magnitude : Int)
  | '+' :: text => (magnitude? text).map fun magnitude => (magnitude : Int)
  | text => (magnitude? text).map fun magnitude => (magnitude : Int)

/-- The real number that a text writes, infinities and what is no number among
them. -/
def real? (text : List Char) : Option Binary64 :=
  let unsigned :=
    match text with
    | '+' :: rest => if rest.head? = some '-' ∨ rest.head? = some '+' then [] else rest
    | rest => rest
  let written := String.ofList unsigned
  if [".inf", ".Inf", ".INF"].contains written then some (.infinite false)
  else if ["-.inf", "-.Inf", "-.INF"].contains (String.ofList text) then
    some (.infinite true)
  else if [".nan", ".NaN", ".NAN"].contains (String.ofList text) then some .nan
  else (Binary64.read? unsigned).filter Binary64.isFinite

/-- A real number as a document, which holds only finite ones. -/
def realDocument (value : Binary64) : Document :=
  if value.isFinite then .number (.real value) else .null

/-- What becomes of an integer: it is one of a document, or it is malformed, or it is
too large to count as an integer. -/
inductive IntegerReading where
  | integer (value : Int)
  | malformed
  | tooLarge
  deriving DecidableEq, Repr

/-- Sorts an integer by the bits it takes. -/
def readInteger (value : Int) : IntegerReading :=
  if Number.InRange value then .integer value
  else if -(twoTo 127 : Int) ≤ value ∧ value < (twoTo 128 : Int) then .malformed
  else .tooLarge

/-- The value of a plain scalar that is no integer. -/
def unwholeDocument (text : String) : Document :=
  if hasLeadingZero text.toList then .string text
  else
    match real? text.toList with
    | some value => realDocument value
    | none => .string text

/-- The value of a plain scalar without a tag. -/
def plainDocument? (text : String) : Option Document :=
  if text = "" ∨ isNullText text then some .null
  else
    match boolean? text, (integer? text.toList).map readInteger with
    | some value, _ => some (.bool value)
    | none, some (.integer value) => some (.number (.integer value))
    | none, some .malformed => none
    | none, some .tooLarge | none, none => some (unwholeDocument text)

/-- What the tags of the core schema begin with. -/
def coreTag (name : String) : String :=
  "tag:yaml.org,2002:" ++ name

/-- Whether a tag is local to the text; a document has no place for such values. -/
def isLocalTag (tag : String) : Bool :=
  tag.toList.head? = some '!'

/-- The value of a scalar with a tag.  The tags of the core schema demand their
values, and any other makes a string. -/
def taggedDocument? (tag text : String) : Option Document :=
  if isLocalTag tag then none
  else if tag = coreTag "bool" then (boolean? text).map .bool
  else if tag = coreTag "int" then
    match (integer? text.toList).map readInteger with
    | some (.integer value) => some (.number (.integer value))
    | _ => none
  else if tag = coreTag "float" then (real? text.toList).map realDocument
  else if tag = coreTag "null" then if isNullText text then some .null else none
  else some (.string text)

def scalarDocument? (tag : Option String) (plain : Bool) (text : String) :
    Option Document :=
  match tag with
  | some tag => taggedDocument? tag text
  | none => if plain then plainDocument? text else some (.string text)

end Yaml

end StatesLanguage
