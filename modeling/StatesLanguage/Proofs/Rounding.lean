import Mathlib.Algebra.Order.Field.Power
import Mathlib.Tactic.Linarith
import Mathlib.Tactic.NormNum
import Mathlib.Tactic.Positivity
import StatesLanguage.Binary64

/-!
# Rounding

`ofRatio` rounds a quotient to a mantissa of fifty-three bits.  What it is rounded to depends
on the quotient alone (`rounding_eq_rounded`), keeps the order of quotients (`rounded_mono`),
and leaves a quotient as it is that has a mantissa (`rounded_eq`).
-/

namespace StatesLanguage

theorem cast_twoTo (exponent : Nat) : (twoTo exponent : ℚ) = 2 ^ exponent := by
  rw [twoTo, Nat.pow_eq, Nat.cast_pow, Nat.cast_ofNat]

namespace Binary64

theorem div_le_roundQuotient (numerator denominator : Nat) :
    numerator / denominator ≤ roundQuotient numerator denominator := by
  rw [roundQuotient]
  split
  · exact Nat.le_succ _
  · split
    · exact Nat.le_add_right _ _
    · exact le_rfl

theorem roundQuotient_le (numerator denominator : Nat) :
    roundQuotient numerator denominator ≤ numerator / denominator + 1 := by
  rw [roundQuotient]
  split
  · exact le_rfl
  · split <;> omega

theorem roundQuotient_mul {denominator : Nat} (positive : 0 < denominator) (quotient : Nat) :
    roundQuotient (quotient * denominator) denominator = quotient := by
  have rest : quotient * denominator % denominator = 0 := Nat.mul_mod_left _ _
  simp [roundQuotient, rest, Nat.mul_div_cancel _ positive, positive.ne]

/-- Equal whole parts are rounded in the order of what is left. -/
theorem roundQuotient_le_of_div_eq {numerator denominator other divisor : Nat}
    (positive : 0 < denominator) (nonzero : 0 < divisor)
    (same : numerator / denominator = other / divisor)
    (rest : numerator % denominator * divisor ≤ other % divisor * denominator) :
    roundQuotient numerator denominator ≤ roundQuotient other divisor := by
  rw [roundQuotient, roundQuotient, same]
  generalize numerator % denominator = left at rest
  generalize other % divisor = right at rest
  by_cases above : denominator < 2 * left
  · have also : divisor < 2 * right := by nlinarith
    rw [if_pos above, if_pos also]
  · rw [if_neg above]
    by_cases half : 2 * left = denominator
    · have also : divisor ≤ 2 * right := by nlinarith
      rw [if_pos half]
      split
      · omega
      · rw [if_pos (by omega)]
    · rw [if_neg half]
      split
      · omega
      · split <;> omega

theorem roundQuotient_mono {numerator denominator other divisor : Nat}
    (positive : 0 < denominator) (nonzero : 0 < divisor)
    (le : numerator * divisor ≤ other * denominator) :
    roundQuotient numerator denominator ≤ roundQuotient other divisor := by
  have whole : numerator / denominator ≤ other / divisor := by
    rw [Nat.le_div_iff_mul_le nonzero]
    apply Nat.le_of_mul_le_mul_right _ positive
    calc numerator / denominator * divisor * denominator
        = numerator / denominator * denominator * divisor := Nat.mul_right_comm _ _ _
      _ ≤ numerator * divisor := Nat.mul_le_mul_right _ (Nat.div_mul_le_self _ _)
      _ ≤ other * denominator := le
  rcases whole.lt_or_eq with less | same
  · calc roundQuotient numerator denominator
        ≤ numerator / denominator + 1 := roundQuotient_le _ _
      _ ≤ other / divisor := less
      _ ≤ roundQuotient other divisor := div_le_roundQuotient _ _
  · apply roundQuotient_le_of_div_eq positive nonzero same
    have left := Nat.div_add_mod numerator denominator
    have right := Nat.div_add_mod other divisor
    rw [← same] at right
    generalize numerator / denominator = quotient at left right
    generalize numerator % denominator = least at left ⊢
    generalize other % divisor = most at right ⊢
    subst left right
    nlinarith

variable {numerator denominator : Nat}

theorem inUnits_pos (positive : 0 < denominator) (exponent : Int) :
    0 < (inUnits numerator denominator exponent).2 := by
  rw [inUnits]
  split
  · exact positive
  · exact Nat.mul_pos positive (twoTo_pos _)

theorem inUnits_ratio (numerator denominator : Nat) (exponent : Int) :
    ((inUnits numerator denominator exponent).1 : ℚ) /
        (inUnits numerator denominator exponent).2 =
      numerator / denominator / 2 ^ exponent := by
  rw [inUnits]
  split
  · rename_i negative
    have opposite : exponent = -(exponent.natAbs : Int) := by omega
    rw [Nat.cast_mul, cast_twoTo]
    conv_rhs => rw [opposite]
    rw [zpow_neg, zpow_natCast, div_inv_eq_mul, div_mul_eq_mul_div]
  · rename_i nonnegative
    have same : exponent = (exponent.natAbs : Int) := by omega
    rw [Nat.cast_mul, cast_twoTo]
    conv_rhs => rw [same]
    rw [zpow_natCast, div_div]

/-- Whole units are counted as the quotient tells. -/
theorem inUnits_div_lt_iff (numerator : Nat) (positive : 0 < denominator) (exponent : Int)
    (bits : Nat) :
    (inUnits numerator denominator exponent).1 / (inUnits numerator denominator exponent).2 <
        twoTo bits ↔
      (numerator / denominator : ℚ) < 2 ^ (exponent + bits) := by
  have counted : (0 : ℚ) < (inUnits numerator denominator exponent).2 :=
    Nat.cast_pos.mpr (inUnits_pos positive exponent)
  have unit : (0 : ℚ) < 2 ^ exponent := by positivity
  rw [Nat.div_lt_iff_lt_mul (inUnits_pos positive exponent), ← @Nat.cast_lt ℚ, Nat.cast_mul,
    cast_twoTo, ← div_lt_iff₀ counted, inUnits_ratio, div_lt_iff₀ unit,
    zpow_add₀ two_ne_zero, zpow_natCast, mul_comm ((2 : ℚ) ^ bits)]

/-- The exponent at which a quotient has fifty-three bits, or the least one. -/
structure IsExponentOf (quotient : ℚ) (exponent : Int) : Prop where
  least : leastExponent ≤ exponent
  below : quotient < 2 ^ (exponent + 53)
  full : exponent = leastExponent ∨ (2 : ℚ) ^ (exponent + 52) ≤ quotient

theorem IsExponentOf.mono {quotient other : ℚ} {exponent higher : Int}
    (lower : IsExponentOf quotient exponent) (upper : IsExponentOf other higher)
    (le : quotient ≤ other) : exponent ≤ higher := by
  rcases lower.full with rfl | full
  · exact upper.least
  · have powers : (2 : ℚ) ^ (exponent + 52) < 2 ^ (higher + 53) :=
      (full.trans le).trans_lt upper.below
    have exponents := (zpow_lt_zpow_iff_right₀ one_lt_two).mp powers
    omega

theorem IsExponentOf.full_of_lt {quotient : ℚ} {exponent lower : Int}
    (fits : IsExponentOf quotient exponent) (least : leastExponent ≤ lower)
    (less : lower < exponent) : (2 : ℚ) ^ (exponent + 52) ≤ quotient := by
  rcases fits.full with rfl | full
  · omega
  · exact full

theorem cast_div_lt_zpow (numerator : Nat) (positive : 0 < denominator) :
    (numerator / denominator : ℚ) <
      2 ^ ((Nat.log2 numerator : Int) - Nat.log2 denominator + 1) := by
  have above : (numerator : ℚ) < 2 ^ (Nat.log2 numerator + 1) := by
    exact_mod_cast Nat.lt_log2_self
  have under : (2 : ℚ) ^ Nat.log2 denominator ≤ denominator := by
    exact_mod_cast Nat.log2_self_le positive.ne'
  have split : (2 : ℚ) ^ ((Nat.log2 numerator : Int) - Nat.log2 denominator + 1) =
      2 ^ (Nat.log2 numerator + 1) / 2 ^ Nat.log2 denominator := by
    rw [← zpow_natCast, ← zpow_natCast, ← zpow_sub₀ two_ne_zero]
    congr 1
    omega
  rw [split]
  exact div_lt_div₀ above under (by positivity) (by positivity)

theorem zpow_le_cast_div (some : 0 < numerator) (positive : 0 < denominator) :
    (2 : ℚ) ^ ((Nat.log2 numerator : Int) - Nat.log2 denominator - 1) ≤
      numerator / denominator := by
  have under : (2 : ℚ) ^ Nat.log2 numerator ≤ numerator := by
    exact_mod_cast Nat.log2_self_le some.ne'
  have above : (denominator : ℚ) ≤ 2 ^ (Nat.log2 denominator + 1) := by
    exact_mod_cast Nat.lt_log2_self.le
  have split : (2 : ℚ) ^ ((Nat.log2 numerator : Int) - Nat.log2 denominator - 1) =
      2 ^ Nat.log2 numerator / 2 ^ (Nat.log2 denominator + 1) := by
    rw [← zpow_natCast, ← zpow_natCast, ← zpow_sub₀ two_ne_zero]
    congr 1
    omega
  rw [split]
  have nonzero : (0 : ℚ) < denominator := Nat.cast_pos.mpr positive
  exact div_le_div₀ (by positivity) under nonzero above

theorem exponentOfRatio_spec (some : 0 < numerator) (positive : 0 < denominator) :
    IsExponentOf (numerator / denominator) (exponentOfRatio numerator denominator) := by
  have above := cast_div_lt_zpow numerator positive
  have under := zpow_le_cast_div some positive
  rw [exponentOfRatio]
  generalize (Nat.log2 numerator : Int) - (Nat.log2 denominator : Int) = log at above under ⊢
  have counted := inUnits_div_lt_iff numerator positive (max leastExponent (log - 53)) 53
  rw [mantissaLimit]
  split
  · rename_i fits
    refine ⟨le_max_left _ _, counted.mp fits, ?_⟩
    rcases le_total leastExponent (log - 53) with low | high
    · right
      rw [max_eq_right low, sub_add]
      exact under
    · exact Or.inl (max_eq_left high)
  · rename_i spills
    have beyond := not_lt.mp (mt counted.mpr spills)
    refine ⟨(le_max_left _ _).trans (Int.le_add_one le_rfl), ?_, Or.inr ?_⟩
    · apply above.trans_le
      apply zpow_le_zpow_right₀ one_le_two
      have guessed := le_max_right leastExponent (log - 53)
      omega
    · rw [add_assoc]
      exact beyond

/-- The mantissa of a quotient, rounded; it may have carried. -/
def roundedMantissa (numerator denominator : Nat) : Nat :=
  let scaled := inUnits numerator denominator (exponentOfRatio numerator denominator)
  roundQuotient scaled.1 scaled.2

/-- A quotient rounded to a mantissa of fifty-three bits, however large it is. -/
def rounding (numerator denominator : Nat) : ℚ :=
  roundedMantissa numerator denominator * 2 ^ exponentOfRatio numerator denominator

theorem cast_div_pos (some : 0 < numerator) (positive : 0 < denominator) :
    (0 : ℚ) < numerator / denominator :=
  div_pos (Nat.cast_pos.mpr some) (Nat.cast_pos.mpr positive)

theorem roundedMantissa_le (some : 0 < numerator) (positive : 0 < denominator) :
    roundedMantissa numerator denominator ≤ mantissaLimit := by
  have spec := exponentOfRatio_spec some positive
  have fits := (inUnits_div_lt_iff numerator positive _ 53).mpr spec.below
  exact (roundQuotient_le _ _).trans fits

theorem cast_le_two_pow {mantissa : Nat} (fits : mantissa ≤ mantissaLimit) :
    (mantissa : ℚ) ≤ 2 ^ 53 := by
  rw [← cast_twoTo]
  exact Nat.cast_le.mpr fits

theorem rounding_le (some : 0 < numerator) (positive : 0 < denominator) :
    rounding numerator denominator ≤ 2 ^ (exponentOfRatio numerator denominator + 53) := by
  have most := cast_le_two_pow (roundedMantissa_le some positive)
  rw [rounding, zpow_add₀ two_ne_zero, zpow_ofNat, mul_comm ((2 : ℚ) ^ _)]
  gcongr

theorem le_rounding (positive : 0 < denominator)
    (full : (2 : ℚ) ^ (exponentOfRatio numerator denominator + 52) ≤ numerator / denominator) :
    2 ^ (exponentOfRatio numerator denominator + 52) ≤ rounding numerator denominator := by
  have counted := mt (inUnits_div_lt_iff numerator positive _ 52).mp (not_lt.mpr full)
  have least : (2 : ℚ) ^ 52 ≤ roundedMantissa numerator denominator := by
    rw [← cast_twoTo]
    exact Nat.cast_le.mpr ((not_lt.mp counted).trans (div_le_roundQuotient _ _))
  rw [rounding, zpow_add₀ two_ne_zero, zpow_ofNat, mul_comm ((2 : ℚ) ^ _)]
  gcongr

theorem rounding_mono {other divisor : Nat} (some : 0 < numerator)
    (positive : 0 < denominator) (nonzero : 0 < divisor)
    (le : (numerator / denominator : ℚ) ≤ other / divisor) :
    rounding numerator denominator ≤ rounding other divisor := by
  have present : 0 < other := by
    rcases Nat.eq_zero_or_pos other with rfl | present
    · have empty := (cast_div_pos some positive).trans_le le
      simp at empty
    · exact present
  have lower := exponentOfRatio_spec some positive
  have upper := exponentOfRatio_spec present nonzero
  rcases (lower.mono upper le).lt_or_eq with less | same
  · calc rounding numerator denominator
        ≤ 2 ^ (exponentOfRatio numerator denominator + 53) := rounding_le some positive
      _ ≤ 2 ^ (exponentOfRatio other divisor + 52) :=
          zpow_le_zpow_right₀ one_le_two (by omega)
      _ ≤ rounding other divisor :=
          le_rounding nonzero (upper.full_of_lt lower.least less)
  · rw [rounding, rounding, roundedMantissa, roundedMantissa, same]
    apply mul_le_mul_of_nonneg_right _ (by positivity)
    rw [Nat.cast_le]
    generalize exponentOfRatio other divisor = exponent
    apply roundQuotient_mono (inUnits_pos positive _) (inUnits_pos nonzero _)
    have left : (0 : ℚ) < (inUnits numerator denominator exponent).2 :=
      Nat.cast_pos.mpr (inUnits_pos positive exponent)
    have right : (0 : ℚ) < (inUnits other divisor exponent).2 :=
      Nat.cast_pos.mpr (inUnits_pos nonzero exponent)
    rw [← @Nat.cast_le ℚ, Nat.cast_mul, Nat.cast_mul, ← div_le_div_iff₀ left right,
      inUnits_ratio, inUnits_ratio]
    gcongr

/-- Whole units at the exponent of a quotient are kept. -/
theorem rounding_eq_of_whole (mantissa : Nat) (positive : 0 < denominator)
    (whole : (numerator / denominator : ℚ) =
      mantissa * 2 ^ exponentOfRatio numerator denominator) :
    rounding numerator denominator = numerator / denominator := by
  rw [rounding, roundedMantissa, whole]
  congr 2
  generalize exponentOfRatio numerator denominator = exponent at whole
  have counted : (0 : ℚ) < (inUnits numerator denominator exponent).2 :=
    Nat.cast_pos.mpr (inUnits_pos positive exponent)
  have units := inUnits_ratio numerator denominator exponent
  rw [whole, mul_div_cancel_right₀ _ (by positivity), div_eq_iff counted.ne',
    ← Nat.cast_mul, Nat.cast_inj] at units
  rw [units, roundQuotient_mul (inUnits_pos positive exponent)]

/-- What has a mantissa is not changed by rounding.  The mantissa of a higher exponent has
carried. -/
theorem rounding_eq {mantissa : Nat} {exponent : Int} (some : 0 < numerator)
    (positive : 0 < denominator) (fits : mantissa ≤ mantissaLimit)
    (least : leastExponent ≤ exponent)
    (same : (numerator / denominator : ℚ) = mantissa * 2 ^ exponent) :
    rounding numerator denominator = numerator / denominator := by
  have spec := exponentOfRatio_spec some positive
  rcases le_or_gt (exponentOfRatio numerator denominator) exponent with low | high
  · apply rounding_eq_of_whole
      (mantissa * twoTo (exponent - exponentOfRatio numerator denominator).toNat) positive
    rw [same, Nat.cast_mul, cast_twoTo, ← zpow_natCast, mul_assoc, ← zpow_add₀ two_ne_zero]
    congr 2
    omega
  · have full := spec.full_of_lt least high
    have limit := cast_le_two_pow fits
    apply rounding_eq_of_whole (twoTo 52) positive
    rw [cast_twoTo, ← zpow_ofNat, ← zpow_add₀ two_ne_zero, add_comm]
    apply le_antisymm _ full
    calc (numerator / denominator : ℚ)
        = mantissa * 2 ^ exponent := same
      _ ≤ 2 ^ 53 * 2 ^ exponent := by gcongr
      _ = 2 ^ (53 + exponent) := by rw [zpow_add₀ two_ne_zero, zpow_ofNat]
      _ ≤ 2 ^ (exponentOfRatio numerator denominator + 52) :=
          zpow_le_zpow_right₀ one_le_two (by omega)

/-- A positive number rounded to a mantissa of fifty-three bits. -/
def rounded (quotient : ℚ) : ℚ :=
  rounding quotient.num.natAbs quotient.den

theorem natAbs_num_pos {quotient : ℚ} (positive : 0 < quotient) :
    0 < quotient.num.natAbs :=
  Int.natAbs_pos.mpr (Rat.num_pos.mpr positive).ne'

theorem natAbs_num_div_den {quotient : ℚ} (positive : 0 < quotient) :
    (quotient.num.natAbs / quotient.den : ℚ) = quotient := by
  rw [Nat.cast_natAbs, abs_of_pos (Rat.num_pos.mpr positive), Rat.num_div_den]

/-- A quotient is rounded in one way, however it is written. -/
theorem rounding_eq_rounded (some : 0 < numerator) (positive : 0 < denominator) :
    rounding numerator denominator = rounded (numerator / denominator) := by
  have quotient := cast_div_pos some positive
  have same := natAbs_num_div_den quotient
  apply le_antisymm
  · exact rounding_mono some positive (Rat.den_pos _) same.ge
  · exact rounding_mono (natAbs_num_pos quotient) (Rat.den_pos _) positive same.le

theorem rounded_mono {lower upper : ℚ} (positive : 0 < lower) (le : lower ≤ upper) :
    rounded lower ≤ rounded upper := by
  apply rounding_mono (natAbs_num_pos positive) (Rat.den_pos _) (Rat.den_pos _)
  rw [natAbs_num_div_den positive, natAbs_num_div_den (positive.trans_le le)]
  exact le

theorem rounded_eq {mantissa : Nat} {exponent : Int} (some : 0 < mantissa)
    (fits : mantissa ≤ mantissaLimit) (least : leastExponent ≤ exponent) :
    rounded (mantissa * 2 ^ exponent) = mantissa * 2 ^ exponent := by
  have positive : (0 : ℚ) < mantissa * 2 ^ exponent := by positivity
  have same := natAbs_num_div_den positive
  rw [rounded, rounding_eq (natAbs_num_pos positive) (Rat.den_pos _) fits least same, same]

theorem one_le_rounded {quotient : ℚ} (one_le : 1 ≤ quotient) : 1 ≤ rounded quotient := by
  have one : rounded 1 = 1 := by
    have kept := @rounded_eq 1 0 Nat.one_pos (by decide +kernel) (by decide)
    simpa using kept
  rw [← one]
  exact rounded_mono one_pos one_le

theorem rounded_rounded {quotient : ℚ} (one_le : 1 ≤ quotient) :
    rounded (rounded quotient) = rounded quotient := by
  have positive : 0 < quotient := one_pos.trans_le one_le
  have some := natAbs_num_pos positive
  have present : 0 < rounded quotient := one_pos.trans_le (one_le_rounded one_le)
  have nonzero : 0 < roundedMantissa quotient.num.natAbs quotient.den := by
    rw [rounded, rounding] at present
    exact Nat.cast_pos.mp (pos_of_mul_pos_left present (by positivity))
  exact rounded_eq nonzero (roundedMantissa_le some (Rat.den_pos _))
    (exponentOfRatio_spec some (Rat.den_pos _)).least

/-- What a magnitude is written as; from `2 ^ 1024` on it is infinite. -/
inductive StandsFor (negative : Bool) (quotient : ℚ) : Binary64 → Prop where
  | finite {mantissa : Nat} {exponent : Int}
      (same : (mantissa * 2 ^ exponent : ℚ) = quotient) (under : quotient < 2 ^ 1024) :
      StandsFor negative quotient (.finite negative mantissa exponent)
  | infinite (beyond : 2 ^ 1024 ≤ quotient) : StandsFor negative quotient (.infinite negative)

theorem normalize_standsFor {mantissa : Nat} {exponent : Int} (negative : Bool)
    (fits : mantissa ≤ mantissaLimit)
    (full : exponent = leastExponent ∨ (2 : ℚ) ^ (exponent + 52) ≤ mantissa * 2 ^ exponent) :
    StandsFor negative (mantissa * 2 ^ exponent) (normalize negative mantissa exponent) := by
  have limit : ((2 : ℚ) ^ 1024) = 2 ^ (1024 : Int) := (zpow_ofNat 2 1024).symm
  rw [normalize]
  by_cases carried : mantissa = mantissaLimit
  · have value : (mantissa * 2 ^ exponent : ℚ) = 2 ^ (53 + exponent) := by
      rw [carried, mantissaLimit, cast_twoTo, zpow_add₀ two_ne_zero, zpow_ofNat]
    rw [if_pos carried, if_pos carried, value]
    split
    · rename_i beyond
      apply StandsFor.infinite
      rw [limit]
      apply zpow_le_zpow_right₀ one_le_two
      rw [greatestExponent] at beyond
      omega
    · rename_i within
      have half : mantissa / 2 = twoTo 52 := by rw [carried]; rfl
      rw [half]
      apply StandsFor.finite
      · rw [cast_twoTo, ← zpow_ofNat, ← zpow_add₀ two_ne_zero]
        congr 1
        omega
      · rw [limit]
        apply zpow_lt_zpow_right₀ one_lt_two
        rw [greatestExponent] at within
        omega
  · have below : (mantissa : ℚ) < 2 ^ 53 := by
      rw [← cast_twoTo]
      exact Nat.cast_lt.mpr (lt_of_le_of_ne fits carried)
    rw [if_neg carried, if_neg carried]
    split
    · rename_i beyond
      apply StandsFor.infinite
      rcases full with rfl | full
      · exact absurd beyond (by decide)
      · apply le_trans _ full
        rw [limit]
        apply zpow_le_zpow_right₀ one_le_two
        rw [greatestExponent] at beyond
        omega
    · rename_i within
      apply StandsFor.finite rfl
      calc (mantissa * 2 ^ exponent : ℚ)
          < 2 ^ 53 * 2 ^ exponent := by gcongr
        _ = 2 ^ (53 + exponent) := by rw [zpow_add₀ two_ne_zero, zpow_ofNat]
        _ ≤ 2 ^ (1024 : Int) := by
            apply zpow_le_zpow_right₀ one_le_two
            rw [greatestExponent] at within
            omega
        _ = 2 ^ 1024 := limit.symm

theorem ofRatio_standsFor (negative : Bool) (some : 0 < numerator)
    (positive : 0 < denominator) :
    StandsFor negative (rounded (numerator / denominator))
      (ofRatio negative numerator denominator) := by
  rw [← rounding_eq_rounded some positive, ofRatio, if_neg some.ne']
  apply normalize_standsFor negative (roundedMantissa_le some positive)
  apply (exponentOfRatio_spec some positive).full.imp_right
  exact le_rounding positive

end Binary64

end StatesLanguage
