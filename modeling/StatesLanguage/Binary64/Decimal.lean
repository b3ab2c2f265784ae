import StatesLanguage.Binary64

/-!
# Decimal text of binary64 values

The digits of a value are the fewest that read back as it; of two shortest
candidates the nearer one is taken, and an exact tie goes to the even digit.
`Layout` says when the digits are written positionally.
-/

namespace StatesLanguage

namespace Binary64

/-- The reals that round to a finite value, in units of a quarter of its last
binary place. -/
structure RoundingInterval where
  low : Nat
  center : Nat
  high : Nat
  closed : Bool

/-- Below a power of two the spacing halves, and the interval's ends belong to the
even mantissa. -/
def roundingInterval (mantissa : Nat) (exponent : Int) : RoundingInterval where
  low := if 2 * mantissa = mantissaLimit ∧ leastExponent < exponent then 4 * mantissa - 1
    else 4 * mantissa - 2
  center := 4 * mantissa
  high := 4 * mantissa + 2
  closed := mantissa % 2 = 0

/-- Whether `candidate * gridUnit` lies in the interval whose unit is
`binaryUnit`. -/
def RoundingInterval.contains (interval : RoundingInterval)
    (gridUnit binaryUnit candidate : Nat) : Bool :=
  let point := candidate * gridUnit
  let low := interval.low * binaryUnit
  let high := interval.high * binaryUnit
  if interval.closed then low ≤ point && point ≤ high
  else low < point && point < high

/-- The nearer of the two neighbours of the value on the grid of multiples of
`gridUnit`, among those that read back as the value. -/
def RoundingInterval.nearestOnGrid (interval : RoundingInterval)
    (gridUnit binaryUnit : Nat) : Option Nat :=
  let center := interval.center * binaryUnit
  let below := center / gridUnit
  let above := below + 1
  let belowReads := interval.contains gridUnit binaryUnit below
  let aboveReads := interval.contains gridUnit binaryUnit above
  if belowReads && aboveReads then
    some (roundQuotient center gridUnit)
  else if belowReads then some below
  else if aboveReads then some above
  else none

/-- Digits and the power of ten of the last one. -/
structure Decimal where
  digits : Nat
  power : Int
  deriving DecidableEq, Repr

/-- Tries ever finer grids of powers of ten. -/
def searchGrid (interval : RoundingInterval) (exponent : Int) :
    Nat → Int → Decimal
  | 0, power => ⟨interval.center, power⟩
  | rounds + 1, power =>
      let gridUnit := tenTo power.toNat * twoTo (2 - exponent).toNat
      let binaryUnit := tenTo (-power).toNat * twoTo (exponent - 2).toNat
      match interval.nearestOnGrid gridUnit binaryUnit with
      | some digits => ⟨digits, power⟩
      | none => searchGrid interval exponent rounds (power - 1)

/-- Drops the zeros that end the digits. -/
def Decimal.trim (rounds : Nat) (decimal : Decimal) : Decimal :=
  match rounds with
  | 0 => decimal
  | rounds + 1 =>
      if decimal.digits ≠ 0 ∧ decimal.digits % 10 = 0 then
        Decimal.trim rounds ⟨decimal.digits / 10, decimal.power + 1⟩
      else decimal

/-- The fewest digits that read back as `mantissa * 2 ^ exponent`. -/
def shortest (mantissa : Nat) (exponent : Int) : Decimal :=
  let magnitude : Int := (Nat.log2 mantissa : Int) + exponent + 1
  let start := magnitude * 30103 / 100000 + 1
  (searchGrid (roundingInterval mantissa exponent) exponent 24 start).trim 24

/-- How a value is laid out around its digits. -/
structure Layout where
  /-- The least power of ten of a first digit that is written positionally. -/
  leastPlain : Option Int
  /-- The greatest such power. -/
  greatestPlain : Option Int
  /-- Whether a whole number ends in `.0`. -/
  pointZero : Bool

/-- Documents write positionally from `0.00001` to `1000000000000000.0`. -/
def Layout.document : Layout := ⟨some (-5), some 15, true⟩

/-- Messages always write positionally, and a whole number without a point. -/
def Layout.positional : Layout := ⟨none, none, false⟩

/-- Whether a first digit of this power of ten is written positionally. -/
def Layout.isPlain (layout : Layout) (first : Int) : Bool :=
  (layout.leastPlain.all (· ≤ first)) && (layout.greatestPlain.all (first ≤ ·))

/-- Positional text of `digits * 10 ^ power`. -/
def plainText (pointZero : Bool) (digits : List Char) (power : Int) : List Char :=
  if 0 ≤ power then
    digits ++ List.replicate power.toNat '0' ++ (if pointZero then ['.', '0'] else [])
  else
    let places := (-power).toNat
    if places < digits.length then
      digits.take (digits.length - places) ++ '.' :: digits.drop (digits.length - places)
    else
      '0' :: '.' :: List.replicate (places - digits.length) '0' ++ digits

/-- Scientific text: one digit, the rest after a point, and a signed exponent. -/
def scientificText (digits : List Char) (first : Int) : List Char :=
  let fraction := match digits.tail with
    | [] => []
    | rest => '.' :: rest
  digits.take 1 ++ fraction ++ 'e' :: (if first < 0 then '-' else '+') ::
    Nat.toDigits 10 first.natAbs

/-- Text of `digits * 10 ^ power` under a layout. -/
def Layout.text (layout : Layout) (decimal : Decimal) : List Char :=
  let digits := Nat.toDigits 10 decimal.digits
  let first := decimal.power + (digits.length : Int) - 1
  if layout.isPlain first then plainText layout.pointZero digits decimal.power
  else scientificText digits first

/-- Text of a value under a layout; `nan` and the infinities have names. -/
def format (layout : Layout) : Binary64 → List Char
  | .finite negative mantissa exponent =>
      let decimal := if mantissa = 0 then ⟨0, 0⟩ else shortest mantissa exponent
      (if negative then ['-'] else []) ++ layout.text decimal
  | .infinite negative => (if negative then ['-'] else []) ++ ['i', 'n', 'f']
  | .nan => ['N', 'a', 'N']

/-- The value nearest to `± digits * 10 ^ power`. -/
def ofDecimal (negative : Bool) (digits : Nat) (power : Int) : Binary64 :=
  if power < 0 then ofRatio negative digits (tenTo power.natAbs)
  else ofRatio negative (digits * tenTo power.natAbs) 1

end Binary64

end StatesLanguage
