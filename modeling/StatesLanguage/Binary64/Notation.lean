import StatesLanguage.Binary64.Decimal
import StatesLanguage.Text.Digit

/-!
# Decimal notation of binary64 values

A sign, digits with a point among them or at either end, and an exponent.  The value
is the one nearest to what is written.
-/

namespace StatesLanguage

namespace Binary64

/-- The value nearest to digits times a power of ten.  Where the first digit stands
decides about values that are far too large or too small. -/
def ofScaledDigits (negative : Bool) (digits : List Nat) (power : Int) : Binary64 :=
  let significant := digits.dropWhile (· = 0)
  let first := (significant.length : Int) + power
  if significant.isEmpty ∨ first < -400 then ofDecimal negative 0 0
  else if 400 < first then .infinite negative
  else ofDecimal negative (Text.ofDigits significant) power

/-- An exponent up to the end of the text; without one it is zero. -/
def readExponent? : List Char → Option Int
  | [] => some 0
  | mark :: rest =>
      if mark = 'e' ∨ mark = 'E' then
        let (negative, unsigned) :=
          match rest with
          | '-' :: rest => (true, rest)
          | '+' :: rest => (false, rest)
          | rest => (false, rest)
        match Text.takeDigits unsigned with
        | ([], _) => none
        | (digits, []) =>
            let magnitude : Int := Text.ofDigits digits
            some (if negative then -magnitude else magnitude)
        | _ => none
      else none

/-- The value of a text without a sign. -/
def readUnsigned? (negative : Bool) (text : List Char) : Option Binary64 := do
  let (whole, afterWhole) := Text.takeDigits text
  let (fraction, afterFraction) :=
    match afterWhole with
    | '.' :: rest => Text.takeDigits rest
    | rest => ([], rest)
  let exponent ← readExponent? afterFraction
  if (whole ++ fraction).isEmpty then none
  else some (ofScaledDigits negative (whole ++ fraction) (exponent - fraction.length))

/-- The value that a text writes in decimal notation. -/
def read? : List Char → Option Binary64
  | '-' :: text => readUnsigned? true text
  | '+' :: text => readUnsigned? false text
  | text => readUnsigned? false text

end Binary64

end StatesLanguage
