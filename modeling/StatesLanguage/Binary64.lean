import StatesLanguage.Power

/-!
# Binary64 arithmetic

A binary64 value is a sign, a mantissa and a power of two, or an infinity, or
not a number.  Every operation computes its exact result as a quotient of
natural numbers and rounds it once, to the nearest representable value, a half
going to the even mantissa.  Nothing here relies on machine floating point, so
each operation can be unfolded in a proof.
-/

namespace StatesLanguage

/-- A binary64 value; `finite negative mantissa exponent` stands for
`± mantissa * 2 ^ exponent`. -/
inductive Binary64 where
  | finite (negative : Bool) (mantissa : Nat) (exponent : Int)
  | infinite (negative : Bool)
  | nan
  deriving DecidableEq, Repr

namespace Binary64

/-- The exponent of the smallest positive value. -/
def leastExponent : Int := -1074

/-- The exponent of the largest finite values. -/
def greatestExponent : Int := 971

/-- The first mantissa that needs a fifty-fourth bit. -/
def mantissaLimit : Nat := twoTo 53

def zero (negative : Bool) : Binary64 :=
  .finite negative 0 leastExponent

/-- The integer nearest to a quotient; a half goes to the even neighbour. -/
def roundQuotient (numerator denominator : Nat) : Nat :=
  let quotient := numerator / denominator
  let twice := 2 * (numerator % denominator)
  if denominator < twice then quotient + 1
  else if twice = denominator then quotient + quotient % 2
  else quotient

/-- The quotient in units of `2 ^ exponent`, as a numerator and a denominator. -/
def inUnits (numerator denominator : Nat) (exponent : Int) : Nat × Nat :=
  if exponent < 0 then (numerator * twoTo exponent.natAbs, denominator)
  else (numerator, denominator * twoTo exponent.natAbs)

/-- The least exponent at which a quotient needs at most fifty-three bits. -/
def exponentOfRatio (numerator denominator : Nat) : Int :=
  let low := max leastExponent
    ((Nat.log2 numerator : Int) - (Nat.log2 denominator : Int) - 53)
  let scaled := inUnits numerator denominator low
  if scaled.1 / scaled.2 < mantissaLimit then low else low + 1

/-- A rounded mantissa may have carried into a fifty-fourth bit, and an exponent
above the greatest one overflows to infinity. -/
def normalize (negative : Bool) (mantissa : Nat) (exponent : Int) : Binary64 :=
  let carried := mantissa = mantissaLimit
  let finalExponent := if carried then exponent + 1 else exponent
  if finalExponent > greatestExponent then .infinite negative
  else .finite negative (if carried then mantissa / 2 else mantissa) finalExponent

/-- The value nearest to `± numerator / denominator`. -/
def ofRatio (negative : Bool) (numerator denominator : Nat) : Binary64 :=
  if numerator = 0 then zero negative
  else
    let exponent := exponentOfRatio numerator denominator
    let scaled := inUnits numerator denominator exponent
    normalize negative (roundQuotient scaled.1 scaled.2) exponent

/-- The value nearest to `± mantissa * 2 ^ exponent`. -/
def ofScaled (negative : Bool) (mantissa : Nat) (exponent : Int) : Binary64 :=
  if exponent < 0 then ofRatio negative mantissa (twoTo exponent.natAbs)
  else ofRatio negative (mantissa * twoTo exponent.natAbs) 1

def ofNat (number : Nat) : Binary64 :=
  ofRatio false number 1

def ofInt (number : Int) : Binary64 :=
  ofRatio (number < 0) number.natAbs 1

/-- The same magnitude with the other sign. -/
def neg : Binary64 → Binary64
  | .finite negative mantissa exponent => .finite (!negative) mantissa exponent
  | .infinite negative => .infinite (!negative)
  | .nan => .nan

def isZero : Binary64 → Bool
  | .finite _ mantissa _ => mantissa == 0
  | _ => false

/-- Whether the value is neither infinite nor `nan`. -/
def isFinite : Binary64 → Bool
  | .finite .. => true
  | _ => false

/-- The product, rounded once; zero times infinity is not a number. -/
def mul : Binary64 → Binary64 → Binary64
  | .finite leftNegative leftMantissa leftExponent,
    .finite rightNegative rightMantissa rightExponent =>
      ofScaled (leftNegative != rightNegative) (leftMantissa * rightMantissa)
        (leftExponent + rightExponent)
  | .nan, _ => .nan
  | _, .nan => .nan
  | .infinite leftNegative, .infinite rightNegative =>
      .infinite (leftNegative != rightNegative)
  | .infinite leftNegative, .finite rightNegative mantissa _ =>
      if mantissa = 0 then .nan else .infinite (leftNegative != rightNegative)
  | .finite leftNegative mantissa _, .infinite rightNegative =>
      if mantissa = 0 then .nan else .infinite (leftNegative != rightNegative)

/-- The quotient, rounded once. -/
def div : Binary64 → Binary64 → Binary64
  | .finite leftNegative leftMantissa leftExponent,
    .finite rightNegative rightMantissa rightExponent =>
      let negative := leftNegative != rightNegative
      if rightMantissa = 0 then
        if leftMantissa = 0 then .nan else .infinite negative
      else
        let exponent := leftExponent - rightExponent
        if exponent < 0 then
          ofRatio negative leftMantissa (rightMantissa * twoTo exponent.natAbs)
        else
          ofRatio negative (leftMantissa * twoTo exponent.natAbs) rightMantissa
  | .nan, _ => .nan
  | _, .nan => .nan
  | .infinite _, .infinite _ => .nan
  | .infinite leftNegative, .finite rightNegative _ _ =>
      .infinite (leftNegative != rightNegative)
  | .finite leftNegative _ _, .infinite rightNegative =>
      zero (leftNegative != rightNegative)

instance : Mul Binary64 := ⟨mul⟩
instance : Div Binary64 := ⟨div⟩
instance : Neg Binary64 := ⟨neg⟩

/-- A finite magnitude in units of `2 ^ unit`, with its sign. -/
def signedUnits (negative : Bool) (mantissa : Nat) (exponent unit : Int) : Int :=
  let magnitude : Int := (mantissa * twoTo (exponent - unit).toNat : Nat)
  if negative then -magnitude else magnitude

/-- The sum, rounded once; infinities with different signs have none. -/
def add : Binary64 → Binary64 → Binary64
  | .nan, _ => .nan
  | _, .nan => .nan
  | .infinite leftNegative, .infinite rightNegative =>
      if leftNegative = rightNegative then .infinite leftNegative else .nan
  | .infinite negative, .finite .. => .infinite negative
  | .finite .., .infinite negative => .infinite negative
  | .finite leftNegative leftMantissa leftExponent,
    .finite rightNegative rightMantissa rightExponent =>
      let unit := min leftExponent rightExponent
      let sum := signedUnits leftNegative leftMantissa leftExponent unit +
        signedUnits rightNegative rightMantissa rightExponent unit
      if sum = 0 then zero (leftNegative && rightNegative)
      else ofScaled (sum < 0) sum.natAbs unit

instance : Add Binary64 := ⟨add⟩

/-- The order of two values; `nan` is comparable with nothing, and the two zeros
are equal. -/
def compare : Binary64 → Binary64 → Option Ordering
  | .nan, _ => none
  | _, .nan => none
  | .finite leftNegative leftMantissa leftExponent,
    .finite rightNegative rightMantissa rightExponent =>
      let unit := min leftExponent rightExponent
      some (Ord.compare
        (signedUnits leftNegative leftMantissa leftExponent unit)
        (signedUnits rightNegative rightMantissa rightExponent unit))
  | .infinite leftNegative, .infinite rightNegative =>
      some (if leftNegative = rightNegative then .eq
        else if leftNegative then .lt else .gt)
  | .infinite negative, .finite .. => some (if negative then .lt else .gt)
  | .finite .., .infinite negative => some (if negative then .gt else .lt)

/-- Whether the left value is at most the right one. -/
def le (left right : Binary64) : Bool :=
  match left.compare right with
  | some .lt | some .eq => true
  | _ => false

/-- Whether the left value is smaller than the right one. -/
def lt (left right : Binary64) : Bool :=
  left.compare right == some .lt

/-- The smaller of two values; a value that is not a number yields the other. -/
def minimum (left right : Binary64) : Binary64 :=
  match left, right with
  | .nan, _ => right
  | _, .nan => left
  | _, _ => if left.lt right then left else right

/-- One round per binary digit of the exponent: `result` holds the digits seen so
far and `square` the power of the next digit. -/
def powerFrom (result square : Binary64) (exponent : Nat) : Binary64 :=
  let product := if exponent % 2 = 1 then result * square else result
  if exponent / 2 = 0 then product
  else powerFrom product (square * square) (exponent / 2)
termination_by exponent
decreasing_by omega

/-- A power by repeated squaring, each multiplication rounded in turn. -/
def power (base : Binary64) (exponent : Nat) : Binary64 :=
  powerFrom (ofNat 1) base exponent

end Binary64

end StatesLanguage
