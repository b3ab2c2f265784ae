import Mathlib.Data.Nat.EvenOddRec
import StatesLanguage.Proofs.Rounding

/-!
# Growth

From one on, products and powers keep the order of their factors and exponents, although
every multiplication is rounded.  So a power that is infinite stays so for every larger base
and exponent (`magnitude_power_le`).
-/

namespace StatesLanguage

namespace Binary64

/-- How large a value is, its sign apart; nothing is larger than an infinity. -/
def magnitude : Binary64 → WithTop ℚ
  | .finite _ mantissa exponent => ((mantissa * 2 ^ exponent : ℚ) : WithTop ℚ)
  | .infinite _ => ⊤
  | .nan => ⊤

/-- Values from one on. -/
inductive AtLeastOne : Binary64 → Prop where
  | finite {mantissa : Nat} {exponent : Int} (one_le : (1 : ℚ) ≤ mantissa * 2 ^ exponent) :
      AtLeastOne (.finite false mantissa exponent)
  | infinite : AtLeastOne (.infinite false)

theorem StandsFor.magnitude_le {negative sign : Bool} {quotient other : ℚ}
    {left right : Binary64} (lower : StandsFor negative quotient left)
    (upper : StandsFor sign other right) (le : quotient ≤ other) :
    left.magnitude ≤ right.magnitude := by
  cases upper with
  | infinite beyond => exact le_top
  | finite same under =>
      cases lower with
      | infinite beyond => exact absurd (beyond.trans le) (not_le.mpr under)
      | finite equal below =>
          rw [magnitude, magnitude, equal, same]
          exact WithTop.coe_le_coe.mpr le

theorem StandsFor.atLeastOne {quotient : ℚ} {value : Binary64}
    (stands : StandsFor false quotient value) (one_le : 1 ≤ quotient) : AtLeastOne value := by
  cases stands with
  | infinite beyond => exact .infinite
  | finite same under =>
      apply AtLeastOne.finite
      rw [same]
      exact one_le

theorem mantissa_pos {mantissa : Nat} {exponent : Int}
    (one_le : (1 : ℚ) ≤ mantissa * 2 ^ exponent) : 0 < mantissa := by
  rcases Nat.eq_zero_or_pos mantissa with rfl | some
  · norm_num at one_le
  · exact some

theorem AtLeastOne.eq_infinite_iff {value : Binary64} (large : AtLeastOne value) :
    value = .infinite false ↔ value.magnitude = ⊤ := by
  cases large with
  | finite one_le => exact iff_of_false Binary64.noConfusion WithTop.coe_ne_top
  | infinite => exact iff_of_true rfl rfl

theorem AtLeastOne.isFinite_iff {value : Binary64} (large : AtLeastOne value) :
    value.isFinite = true ↔ value ≠ .infinite false := by
  cases large with
  | finite one_le => simp [isFinite]
  | infinite => simp [isFinite]

theorem one_eq : ofNat 1 = .finite false (twoTo 52) (-52) := rfl

theorem one_value : (twoTo 52 * 2 ^ (-52 : Int) : ℚ) = 1 := by
  rw [cast_twoTo, ← zpow_ofNat, ← zpow_add₀ two_ne_zero]
  rfl

theorem one_atLeastOne : AtLeastOne (ofNat 1) := by
  rw [one_eq]
  exact .finite one_value.ge

theorem AtLeastOne.one_magnitude_le {value : Binary64} (large : AtLeastOne value) :
    (ofNat 1).magnitude ≤ value.magnitude := by
  cases large with
  | infinite => exact le_top
  | finite one_le =>
      rw [one_eq, magnitude, magnitude, one_value]
      exact WithTop.coe_le_coe.mpr one_le

theorem finite_le_finite_iff {negative sign : Bool} {mantissa other : Nat}
    {exponent power : Int} :
    (finite negative mantissa exponent).le (finite sign other power) = true ↔
      signedUnits negative mantissa exponent (min exponent power) ≤
        signedUnits sign other power (min exponent power) := by
  rw [le, compare]
  generalize signedUnits negative mantissa exponent (min exponent power) = left
  generalize signedUnits sign other power (min exponent power) = right
  rcases lt_trichotomy left right with less | rfl | greater
  · rw [compare_lt_iff_lt.mpr less]
    exact iff_of_true rfl less.le
  · rw [compare_eq_iff_eq.mpr rfl]
    exact iff_of_true rfl le_rfl
  · rw [compare_gt_iff_gt.mpr greater]
    exact iff_of_false Bool.false_ne_true (not_le.mpr greater)

theorem finite_lt_finite_iff {negative sign : Bool} {mantissa other : Nat}
    {exponent power : Int} :
    (finite negative mantissa exponent).lt (finite sign other power) = true ↔
      signedUnits negative mantissa exponent (min exponent power) <
        signedUnits sign other power (min exponent power) := by
  rw [lt, compare, beq_iff_eq, Option.some.injEq, compare_lt_iff_lt]

theorem signedUnits_pos_iff {negative : Bool} {mantissa : Nat} {exponent unit : Int} :
    0 < signedUnits negative mantissa exponent unit ↔ negative = false ∧ 0 < mantissa := by
  have power := twoTo_pos (exponent - unit).toNat
  cases negative with
  | false => simp [signedUnits, power]
  | true =>
      rw [signedUnits, if_pos rfl]
      exact iff_of_false (by omega) fun both => Bool.false_ne_true both.1.symm

theorem cast_signedUnits {mantissa : Nat} {exponent unit : Int} (within : unit ≤ exponent) :
    (signedUnits false mantissa exponent unit : ℚ) = mantissa * 2 ^ exponent / 2 ^ unit := by
  have nonnegative : ((exponent - unit).toNat : Int) = exponent - unit := by omega
  rw [signedUnits, if_neg Bool.false_ne_true, Int.cast_natCast, Nat.cast_mul, cast_twoTo,
    ← zpow_natCast, nonnegative, zpow_sub₀ two_ne_zero, mul_div_assoc]

theorem positive_le_positive_iff {mantissa other : Nat} {exponent power : Int} :
    (finite false mantissa exponent).le (finite false other power) = true ↔
      (mantissa * 2 ^ exponent : ℚ) ≤ other * 2 ^ power := by
  have unit : (0 : ℚ) < 2 ^ min exponent power := by positivity
  rw [finite_le_finite_iff, ← @Int.cast_le ℚ, cast_signedUnits (min_le_left _ _),
    cast_signedUnits (min_le_right _ _), div_le_div_iff_of_pos_right unit]

theorem AtLeastOne.le_iff {left right : Binary64} (first : AtLeastOne left)
    (second : AtLeastOne right) : left.le right = true ↔ left.magnitude ≤ right.magnitude := by
  cases first with
  | infinite =>
      cases second with
      | infinite => exact iff_of_true rfl le_rfl
      | finite one_le =>
          exact iff_of_false Bool.false_ne_true (not_le.mpr (WithTop.coe_lt_top _))
  | finite one_le =>
      cases second with
      | infinite => exact iff_of_true rfl le_top
      | finite one_le' =>
          rw [positive_le_positive_iff, magnitude, magnitude, WithTop.coe_le_coe]

/-- The comparison with one also tells that there is a sign and a number. -/
theorem AtLeastOne.of_one_le {value : Binary64} (le : (ofNat 1).le value = true) :
    AtLeastOne value := by
  rw [one_eq] at le
  cases value with
  | nan => cases le
  | infinite negative =>
      cases negative with
      | false => exact .infinite
      | true => cases le
  | finite negative mantissa exponent =>
      cases negative with
      | false =>
          rw [positive_le_positive_iff, one_value] at le
          exact .finite le
      | true =>
          have below := finite_le_finite_iff.mp le
          have positive := lt_of_lt_of_le (signedUnits_pos_iff.mpr ⟨rfl, twoTo_pos 52⟩) below
          cases (signedUnits_pos_iff.mp positive).1

theorem ofScaled_standsFor (negative : Bool) {mantissa : Nat} (exponent : Int)
    (some : 0 < mantissa) :
    StandsFor negative (rounded (mantissa * 2 ^ exponent))
      (ofScaled negative mantissa exponent) := by
  rw [ofScaled]
  split
  · rename_i below
    have stands := ofRatio_standsFor negative some (twoTo_pos exponent.natAbs)
    have same : -(exponent.natAbs : Int) = exponent := by omega
    rw [cast_twoTo, ← zpow_natCast, div_eq_mul_inv, ← zpow_neg, same] at stands
    exact stands
  · rename_i above
    have stands := ofRatio_standsFor negative
      (Nat.mul_pos some (twoTo_pos exponent.natAbs)) Nat.one_pos
    have same : (exponent.natAbs : Int) = exponent := by omega
    rw [Nat.cast_one, div_one, Nat.cast_mul, cast_twoTo, ← zpow_natCast, same] at stands
    exact stands

/-- A product of finite values is the exact product, rounded. -/
theorem mul_standsFor {mantissa other : Nat} {exponent power : Int}
    (one_le : (1 : ℚ) ≤ mantissa * 2 ^ exponent) (one_le' : (1 : ℚ) ≤ other * 2 ^ power) :
    StandsFor false (rounded (mantissa * 2 ^ exponent * (other * 2 ^ power)))
      (.finite false mantissa exponent * .finite false other power) := by
  have stands := ofScaled_standsFor false (exponent + power)
    (Nat.mul_pos (mantissa_pos one_le) (mantissa_pos one_le'))
  rw [Nat.cast_mul, zpow_add₀ two_ne_zero, mul_mul_mul_comm] at stands
  exact stands

theorem AtLeastOne.mul_infinite {value : Binary64} (large : AtLeastOne value) :
    value * .infinite false = .infinite false := by
  cases large with
  | infinite => rfl
  | finite one_le => exact if_neg (mantissa_pos one_le).ne'

theorem AtLeastOne.infinite_mul {value : Binary64} (large : AtLeastOne value) :
    .infinite false * value = .infinite false := by
  cases large with
  | infinite => rfl
  | finite one_le => exact if_neg (mantissa_pos one_le).ne'

theorem AtLeastOne.mul_cases {left right : Binary64} (first : AtLeastOne left)
    (second : AtLeastOne right) :
    left * right = .infinite false ∨
      ∃ quotient, 1 ≤ quotient ∧ StandsFor false (rounded quotient) (left * right) := by
  cases first with
  | infinite => exact .inl second.infinite_mul
  | finite one_le =>
      cases second with
      | infinite => exact .inl (AtLeastOne.finite one_le).mul_infinite
      | finite one_le' =>
          exact .inr ⟨_, one_le_mul_of_one_le_of_one_le one_le one_le',
            mul_standsFor one_le one_le'⟩

theorem AtLeastOne.mul {left right : Binary64} (first : AtLeastOne left)
    (second : AtLeastOne right) : AtLeastOne (left * right) := by
  rcases first.mul_cases second with beyond | ⟨quotient, one_le, stands⟩
  · rw [beyond]
    exact .infinite
  · exact stands.atLeastOne (one_le_rounded one_le)

/-- Rounded products keep the order of their factors. -/
theorem magnitude_mul_le {left right other another : Binary64} (first : AtLeastOne left)
    (second : AtLeastOne right) (third : AtLeastOne other) (fourth : AtLeastOne another)
    (le : left.magnitude ≤ other.magnitude) (le' : right.magnitude ≤ another.magnitude) :
    (left * right).magnitude ≤ (other * another).magnitude := by
  cases third with
  | infinite =>
      rw [fourth.infinite_mul]
      exact le_top
  | finite most =>
      cases fourth with
      | infinite =>
          rw [(AtLeastOne.finite most).mul_infinite]
          exact le_top
      | finite most' =>
          cases first with
          | infinite => exact absurd (top_le_iff.mp le) WithTop.coe_ne_top
          | finite least =>
              cases second with
              | infinite => exact absurd (top_le_iff.mp le') WithTop.coe_ne_top
              | finite least' =>
                  apply (mul_standsFor least least').magnitude_le (mul_standsFor most most')
                  apply rounded_mono (by positivity)
                  exact mul_le_mul (WithTop.coe_le_coe.mp le) (WithTop.coe_le_coe.mp le')
                    (by positivity) (by positivity)

/-- A rounded product is not rounded again. -/
theorem magnitude_one_mul_mul {left right : Binary64} (first : AtLeastOne left)
    (second : AtLeastOne right) :
    (ofNat 1 * (left * right)).magnitude = (left * right).magnitude := by
  rcases first.mul_cases second with beyond | ⟨quotient, one_le, stands⟩
  · rw [beyond, one_atLeastOne.mul_infinite]
  · generalize left * right = product at stands ⊢
    have again : StandsFor false (rounded quotient) (ofNat 1 * product) := by
      cases stands with
      | infinite beyond =>
          rw [one_atLeastOne.mul_infinite]
          exact .infinite beyond
      | finite same under =>
          have whole := one_le_rounded one_le
          rw [← same] at whole
          have product := mul_standsFor one_value.ge whole
          rw [one_value, one_mul, same, rounded_rounded one_le] at product
          exact product
    exact le_antisymm (again.magnitude_le stands le_rfl) (stands.magnitude_le again le_rfl)

theorem powerFrom_zero (result square : Binary64) : powerFrom result square 0 = result := by
  rw [powerFrom]
  rfl

theorem powerFrom_even (result square : Binary64) (half : Nat) :
    powerFrom result square (2 * half) = powerFrom result (square * square) half := by
  rcases Nat.eq_zero_or_pos half with rfl | some
  · rw [Nat.mul_zero, powerFrom_zero, powerFrom_zero]
  · rw [powerFrom, Nat.mul_mod_right, Nat.mul_div_cancel_left _ Nat.two_pos, if_neg some.ne']
    rfl

theorem powerFrom_odd (result square : Binary64) (half : Nat) :
    powerFrom result square (2 * half + 1) =
      powerFrom (result * square) (square * square) half := by
  have digit : (2 * half + 1) % 2 = 1 := by omega
  have rest : (2 * half + 1) / 2 = half := by omega
  rw [powerFrom, digit, rest]
  split
  · rename_i last
    rw [last, powerFrom_zero]
    rfl
  · rfl

theorem AtLeastOne.powerFrom {result square : Binary64} (first : AtLeastOne result)
    (second : AtLeastOne square) (exponent : Nat) :
    AtLeastOne (powerFrom result square exponent) := by
  induction exponent using Nat.evenOddRec generalizing result square with
  | h0 =>
      rw [powerFrom_zero]
      exact first
  | h_even half induction =>
      rw [powerFrom_even]
      exact induction first (second.mul second)
  | h_odd half induction =>
      rw [powerFrom_odd]
      exact induction (first.mul second) (second.mul second)

theorem magnitude_powerFrom_le {result square other base : Binary64}
    (first : AtLeastOne result) (second : AtLeastOne square) (third : AtLeastOne other)
    (fourth : AtLeastOne base) (le : result.magnitude ≤ other.magnitude)
    (le' : square.magnitude ≤ base.magnitude) (exponent : Nat) :
    (powerFrom result square exponent).magnitude ≤
      (powerFrom other base exponent).magnitude := by
  induction exponent using Nat.evenOddRec generalizing result square other base with
  | h0 =>
      rw [powerFrom_zero, powerFrom_zero]
      exact le
  | h_even half induction =>
      rw [powerFrom_even, powerFrom_even]
      exact induction first (second.mul second) third (fourth.mul fourth) le
        (magnitude_mul_le second second fourth fourth le' le')
  | h_odd half induction =>
      rw [powerFrom_odd, powerFrom_odd]
      exact induction (first.mul second) (second.mul second) (third.mul fourth)
        (fourth.mul fourth) (magnitude_mul_le first second third fourth le le')
        (magnitude_mul_le second second fourth fourth le' le')

/-- One more in the exponent, where the square is rounded already. -/
theorem magnitude_powerFrom_le_succ {result square : Binary64}
    (first : AtLeastOne result) (second : AtLeastOne square)
    (le : result.magnitude ≤ (ofNat 1 * square).magnitude) (exponent : Nat)
    (le' : result.magnitude ≤ square.magnitude) :
    (powerFrom result square exponent).magnitude ≤
      (powerFrom (ofNat 1) square (exponent + 1)).magnitude := by
  induction exponent using Nat.evenOddRec generalizing result square with
  | h0 =>
      have single : 0 + 1 = 2 * 0 + 1 := rfl
      rw [powerFrom_zero, single, powerFrom_odd, powerFrom_zero]
      exact le
  | h_even half induction =>
      rw [powerFrom_even, powerFrom_odd]
      exact magnitude_powerFrom_le first (second.mul second) (one_atLeastOne.mul second)
        (second.mul second) le le_rfl half
  | h_odd half induction =>
      have next : 2 * half + 1 + 1 = 2 * (half + 1) := rfl
      rw [next, powerFrom_odd, powerFrom_even]
      apply induction (first.mul second) (second.mul second)
      · rw [magnitude_one_mul_mul second second]
        exact magnitude_mul_le first second second second le' le_rfl
      · exact magnitude_mul_le first second second second le' le_rfl

theorem AtLeastOne.power {base : Binary64} (large : AtLeastOne base) (exponent : Nat) :
    AtLeastOne (base.power exponent) :=
  one_atLeastOne.powerFrom large exponent

theorem magnitude_power_le_succ {base : Binary64} (large : AtLeastOne base)
    (exponent : Nat) :
    (base.power exponent).magnitude ≤ (base.power (exponent + 1)).magnitude :=
  magnitude_powerFrom_le_succ one_atLeastOne large
    (one_atLeastOne.mul large).one_magnitude_le exponent large.one_magnitude_le

/-- Powers keep the order of their bases and exponents. -/
theorem magnitude_power_le {base other : Binary64} {exponent later : Nat}
    (first : AtLeastOne base) (second : AtLeastOne other)
    (le : base.magnitude ≤ other.magnitude) (le' : exponent ≤ later) :
    (base.power exponent).magnitude ≤ (other.power later).magnitude := by
  calc (base.power exponent).magnitude
      ≤ (other.power exponent).magnitude :=
        magnitude_powerFrom_le one_atLeastOne first one_atLeastOne second le_rfl le exponent
    _ ≤ (other.power later).magnitude :=
        monotone_nat_of_le_succ (magnitude_power_le_succ second) le'

end Binary64

end StatesLanguage
