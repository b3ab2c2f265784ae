import StatesLanguage.Binary64.Decimal
import StatesLanguage.Text.Digit

/-!
# Numbers of documents

A number is an integer of sixty-four bits, signed below zero and unsigned above,
or a binary64 value.  A literal without fraction and exponent is an integer if it
fits.  Every other literal gathers its digits into one unsigned word and scales
that by a power of ten, which rounds twice; `ofLiteral?` states the rule exactly.
-/

namespace StatesLanguage

/-- A number of a document. -/
inductive Number where
  | integer (value : Int)
  | real (value : Binary64)
  deriving DecidableEq, Repr

namespace Number

/-- The first number above the unsigned sixty-four-bit words. -/
def wordLimit : Nat := twoTo 64

/-- The magnitude of the least signed sixty-four-bit integer. -/
def negativeLimit : Nat := twoTo 63

/-- The integers that a document can hold. -/
def InRange (value : Int) : Prop :=
  -(negativeLimit : Int) ≤ value ∧ value < (wordLimit : Int)

instance (value : Int) : Decidable (InRange value) :=
  inferInstanceAs (Decidable (_ ∧ _))

/-- The value, rounded to binary64. -/
def toBinary64 : Number → Binary64
  | .integer value => Binary64.ofInt value
  | .real value => value

def digitText (value : Nat) : List Char :=
  Nat.toDigits 10 value

def integerText : Int → List Char
  | .ofNat value => digitText value
  | .negSucc value => '-' :: digitText (value + 1)

/-- Text of a number; what is not finite has no number text and reads `null`. -/
def text : Number → List Char
  | .integer value => integerText value
  | .real value =>
      if value.isFinite then value.format .document else ['n', 'u', 'l', 'l']

/-- A number literal: the digits before and after the point, and the power of ten. -/
structure Literal where
  negative : Bool
  whole : List Nat
  fraction : Option (List Nat)
  power : Option Int
  deriving DecidableEq, Repr

/-- The digits gathered so far: a word, the power of ten it stands for, and
whether a digit was already dropped. -/
structure Gathered where
  word : Nat
  power : Int
  full : Bool

/-- A digit before the point that no longer fits raises the power instead, and so
does every digit after it. -/
def Gathered.addWhole (gathered : Gathered) (digit : Nat) : Gathered :=
  let word := 10 * gathered.word + digit
  if gathered.full || wordLimit ≤ word then
    { gathered with power := gathered.power + 1, full := true }
  else { gathered with word }

/-- A digit after the point that no longer fits is dropped, and so is every digit
after it. -/
def Gathered.addFraction (gathered : Gathered) (digit : Nat) : Gathered :=
  let word := 10 * gathered.word + digit
  if gathered.full || wordLimit ≤ word then { gathered with full := true }
  else { gathered with word, power := gathered.power - 1 }

/-- The word and power of ten that a literal's digits make; the fraction starts
anew with the word the whole part left. -/
def Literal.gather (literal : Literal) : Gathered :=
  let whole := literal.whole.foldl Gathered.addWhole ⟨0, 0, false⟩
  let fraction := (literal.fraction.getD []).foldl Gathered.addFraction
    { whole with full := false }
  { fraction with power := fraction.power + literal.power.getD 0 }

/-- The largest power of ten that one multiplication applies. -/
def greatestPower : Nat := 308

def powerOfTen (power : Nat) : Binary64 :=
  Binary64.ofNat (tenTo power)

/-- Divides by a power of ten, the largest one as often as needed. -/
def scaleDown (value : Binary64) (power : Nat) : Binary64 :=
  if power ≤ greatestPower then value / powerOfTen power
  else if value.isZero then value
  else scaleDown (value / powerOfTen greatestPower) (power - greatestPower)
termination_by power
decreasing_by simp only [greatestPower] at *; omega

/-- Scales by a power of ten; a result beyond the finite values is refused. -/
def scale? (value : Binary64) (power : Int) : Option Binary64 :=
  if power < 0 then some (scaleDown value power.natAbs)
  else if power.natAbs ≤ greatestPower then
    let scaled := value * powerOfTen power.natAbs
    if scaled.isFinite then some scaled else none
  else if value.isZero then some value
  else none

/-- The binary64 value of a literal. -/
def Literal.real? (literal : Literal) : Option Binary64 :=
  let gathered := literal.gather
  (scale? (Binary64.ofNat gathered.word) gathered.power).map fun magnitude =>
    if literal.negative then -magnitude else magnitude

/-- The number of a literal: an integer if it is written as one and fits, else a
binary64 value.  Negative zero is not an integer. -/
def ofLiteral? (literal : Literal) : Option Number :=
  let magnitude := Text.ofDigits literal.whole
  let whole := literal.fraction.isNone && literal.power.isNone
  if whole && !literal.negative && magnitude < wordLimit then
    some (.integer magnitude)
  else if whole && literal.negative && 0 < magnitude && magnitude ≤ negativeLimit then
    some (.integer (-(magnitude : Int)))
  else literal.real?.map .real

end Number

end StatesLanguage
