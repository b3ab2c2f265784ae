import StatesLanguage.Proofs.Growth
import StatesLanguage.Proofs.Retry
import StatesLanguage.Proofs.WellFormed

/-!
# Delays without an interval

An entry without an interval waits for nothing as long as the power of its rate is finite.
Nothing times an infinite power is not a number, which alone is no delay either; next to a
bound it yields the bound.  `Retrier.delays_without_interval` tells the delays apart, and from
which retry on a bound is waited for.
-/

namespace StatesLanguage

namespace Binary64

theorem isZero_iff {value : Binary64} :
    value.isZero = true ↔ ∃ negative exponent, value = .finite negative 0 exponent := by
  cases value with
  | finite negative mantissa exponent =>
      constructor
      · intro empty
        cases eq_of_beq empty
        exact ⟨negative, exponent, rfl⟩
      · rintro ⟨_, _, same⟩
        cases same
        rfl
  | infinite negative => exact iff_of_false Bool.false_ne_true (by rintro ⟨_, _, ⟨⟩⟩)
  | nan => exact iff_of_false Bool.false_ne_true (by rintro ⟨_, _, ⟨⟩⟩)

theorem isZero_mul {left right : Binary64} (empty : left.isZero = true)
    (bounded : right.isFinite = true) : (left * right).isZero = true := by
  obtain ⟨negative, exponent, rfl⟩ := isZero_iff.mp empty
  cases right with
  | finite sign mantissa power =>
      change (ofScaled _ (0 * mantissa) _).isZero = true
      rw [Nat.zero_mul, ofScaled, Nat.zero_mul]
      split <;> rfl
  | infinite sign => cases bounded
  | nan => cases bounded

theorem zero_mul_eq_nan {left right : Binary64} (empty : left.isZero = true)
    (unbounded : right.isFinite = false) : left * right = .nan := by
  obtain ⟨negative, exponent, rfl⟩ := isZero_iff.mp empty
  cases right with
  | finite sign mantissa power => cases unbounded
  | infinite sign => rfl
  | nan => rfl

theorem signedUnits_zero (negative : Bool) (exponent unit : Int) :
    signedUnits negative 0 exponent unit = 0 := by
  rw [signedUnits, Nat.zero_mul]
  split <;> rfl

/-- All zeros are below the same values. -/
theorem lt_of_zero_lt {left right : Binary64} (empty : left.isZero = true)
    (positive : (zero false).lt right = true) : left.lt right = true := by
  obtain ⟨negative, exponent, rfl⟩ := isZero_iff.mp empty
  cases right with
  | nan => cases positive
  | infinite sign => exact positive
  | finite sign mantissa power =>
      rw [zero, finite_lt_finite_iff, signedUnits_zero, signedUnits_pos_iff] at positive
      rw [finite_lt_finite_iff, signedUnits_zero, signedUnits_pos_iff]
      exact positive

theorem minimum_of_lt {left right : Binary64} (less : left.lt right = true) :
    left.minimum right = left := by
  cases left with
  | nan => cases less
  | finite negative mantissa exponent =>
      cases right with
      | nan => rfl
      | finite sign other power => exact if_pos less
      | infinite sign => exact if_pos less
  | infinite negative =>
      cases right with
      | nan => rfl
      | finite sign other power => exact if_pos less
      | infinite sign => exact if_pos less

end Binary64

namespace Delay

theorem ofSeconds_of_isZero {seconds : Binary64} (empty : seconds.isZero = true) :
    ofSeconds seconds = 0 := by
  obtain ⟨negative, exponent, rfl⟩ := Binary64.isZero_iff.mp empty
  have denominator := twoTo_pos (-exponent).toNat
  have limit : 0 < Number.wordLimit := by decide
  rw [ofSeconds]
  split
  · rfl
  · rw [Nat.zero_mul, if_neg (not_le.mpr (Nat.mul_pos limit denominator)), Nat.zero_mul]
    have nothing := Binary64.roundQuotient_mul denominator 0
    rwa [Nat.zero_mul] at nothing

theorem scaled_of_isZero {seconds : Binary64} (empty : seconds.isZero = true)
    (timeScale : Binary64) : scaled seconds timeScale = 0 := by
  rw [scaled]
  cases bounded : timeScale.isFinite with
  | true => exact ofSeconds_of_isZero (Binary64.isZero_mul empty bounded)
  | false =>
      rw [Binary64.zero_mul_eq_nan empty bounded]
      rfl

theorem scaled_nan (timeScale : Binary64) : scaled .nan timeScale = 0 := by
  cases timeScale <;> rfl

end Delay

namespace Retrier

/-- The seconds that the delays of an entry grow from. -/
def interval (retrier : Retrier) (defaults : RetryDefaults) : Binary64 :=
  retrier.intervalSeconds.getD defaults.intervalSeconds

/-- What the delays of an entry grow by. -/
def rate (retrier : Retrier) (defaults : RetryDefaults) : Binary64 :=
  retrier.backoffRate.getD defaults.backoffRate

/-- How far the delays have grown after some retries. -/
def growth (retrier : Retrier) (defaults : RetryDefaults) (used : Nat) : Binary64 :=
  (retrier.rate defaults).power (min used Delay.greatestExponent)

/-- The growth has left the finite values. -/
def Overflows (retrier : Retrier) (defaults : RetryDefaults) (used : Nat) : Prop :=
  retrier.growth defaults used = .infinite false

variable {retrier : Retrier} {defaults : RetryDefaults}

theorem backoff_of_unbounded (unbounded : retrier.maxDelaySeconds = none) (used : Nat) :
    retrier.backoff defaults used =
      retrier.interval defaults * retrier.growth defaults used := by
  rw [backoff, unbounded]
  rfl

theorem backoff_of_bounded {bound : Binary64}
    (bounded : retrier.maxDelaySeconds = some bound) (used : Nat) :
    retrier.backoff defaults used =
      (retrier.interval defaults * retrier.growth defaults used).minimum bound := by
  rw [backoff, bounded]
  rfl

theorem atLeastOne_growth (grows : (Binary64.ofNat 1).le (retrier.rate defaults) = true)
    (used : Nat) : (retrier.growth defaults used).AtLeastOne :=
  (Binary64.AtLeastOne.of_one_le grows).power _

theorem isFinite_growth_iff (grows : (Binary64.ofNat 1).le (retrier.rate defaults) = true)
    {used : Nat} :
    (retrier.growth defaults used).isFinite = true ↔ ¬ retrier.Overflows defaults used :=
  (atLeastOne_growth grows used).isFinite_iff

/-- A growth is infinite as soon as one with no higher rate and no more retries is. -/
theorem overflows_of_le {base : Binary64} {steps used : Nat} (large : base.AtLeastOne)
    (grows : (Binary64.ofNat 1).le (retrier.rate defaults) = true)
    (beyond : base.power steps = .infinite false)
    (le : base.le (retrier.rate defaults) = true)
    (reached : steps ≤ min used Delay.greatestExponent) :
    retrier.Overflows defaults used := by
  have steep := Binary64.AtLeastOne.of_one_le grows
  have most := Binary64.magnitude_power_le large steep ((large.le_iff steep).mp le) reached
  rw [beyond] at most
  exact (atLeastOne_growth grows used).eq_infinite_iff.mpr (top_le_iff.mp most)

theorem not_overflows_of_le {base : Binary64} {steps used : Nat} (large : base.AtLeastOne)
    (grows : (Binary64.ofNat 1).le (retrier.rate defaults) = true)
    (under : (base.power steps).isFinite = true)
    (le : (retrier.rate defaults).le base = true)
    (reached : min used Delay.greatestExponent ≤ steps) :
    ¬ retrier.Overflows defaults used := by
  intro beyond
  have slow := Binary64.AtLeastOne.of_one_le grows
  have most : (retrier.growth defaults used).magnitude ≤ (base.power steps).magnitude :=
    Binary64.magnitude_power_le slow large ((slow.le_iff large).mp le) reached
  rw [(atLeastOne_growth grows used).eq_infinite_iff.mp beyond, top_le_iff] at most
  exact (large.power steps).isFinite_iff.mp under
    ((large.power steps).eq_infinite_iff.mpr most)

/-- Once the growth is infinite, it stays so. -/
theorem Overflows.mono {used later : Nat} (beyond : retrier.Overflows defaults used)
    (grows : (Binary64.ofNat 1).le (retrier.rate defaults) = true) (le : used ≤ later) :
    retrier.Overflows defaults later := by
  have large := Binary64.AtLeastOne.of_one_le grows
  apply overflows_of_le large grows beyond ((large.le_iff large).mpr le_rfl)
  exact min_le_min_right _ le

/-- Without an interval and a bound there is never a delay. -/
theorem scaled_backoff_of_unbounded (still : (retrier.interval defaults).isZero = true)
    (unbounded : retrier.maxDelaySeconds = none) (used : Nat) (timeScale : Binary64) :
    Delay.scaled (retrier.backoff defaults used) timeScale = 0 := by
  rw [backoff_of_unbounded unbounded]
  cases under : (retrier.growth defaults used).isFinite with
  | true => exact Delay.scaled_of_isZero (Binary64.isZero_mul still under) timeScale
  | false =>
      rw [Binary64.zero_mul_eq_nan still under]
      exact Delay.scaled_nan timeScale

/-- Without an interval a bound counts for nothing while the growth is finite. -/
theorem scaled_backoff_of_isFinite {bound : Binary64} {used : Nat}
    (still : (retrier.interval defaults).isZero = true)
    (bounded : retrier.maxDelaySeconds = some bound)
    (positive : (Binary64.zero false).lt bound = true)
    (under : (retrier.growth defaults used).isFinite = true) (timeScale : Binary64) :
    Delay.scaled (retrier.backoff defaults used) timeScale = 0 := by
  have nothing := Binary64.isZero_mul still under
  have less := Binary64.lt_of_zero_lt nothing positive
  rw [backoff_of_bounded bounded, Binary64.minimum_of_lt less]
  exact Delay.scaled_of_isZero nothing timeScale

/-- An infinite growth of no interval is not a number, so that the bound is left. -/
theorem backoff_of_overflows {bound : Binary64} {used : Nat}
    (still : (retrier.interval defaults).isZero = true)
    (bounded : retrier.maxDelaySeconds = some bound)
    (beyond : retrier.Overflows defaults used) : retrier.backoff defaults used = bound := by
  have unbounded : (retrier.growth defaults used).isFinite = false := by
    rw [beyond]
    rfl
  rw [backoff_of_bounded bounded, Binary64.zero_mul_eq_nan still unbounded]
  rfl

theorem WellFormed.one_le_rate (wellFormed : retrier.WellFormed)
    (fallback : retrier.backoffRate = none →
      (Binary64.ofNat 1).le defaults.backoffRate = true) :
    (Binary64.ofNat 1).le (retrier.rate defaults) = true := by
  cases own : retrier.backoffRate with
  | none =>
      rw [Retrier.rate, own]
      exact fallback own
  | some rate =>
      rw [Retrier.rate, own]
      exact wellFormed.rate rate own

/-- What there is to wait for without an interval is the bound, from an infinite growth on. -/
theorem WellFormed.scaled_backoff_eq_zero {used : Nat} (wellFormed : retrier.WellFormed)
    (still : (retrier.interval defaults).isZero = true)
    (grows : (Binary64.ofNat 1).le (retrier.rate defaults) = true)
    (undelayed : ¬ retrier.Overflows defaults used ∨ retrier.maxDelaySeconds = none)
    (timeScale : Binary64) :
    Delay.scaled (retrier.backoff defaults used) timeScale = 0 := by
  cases limit : retrier.maxDelaySeconds with
  | none => exact scaled_backoff_of_unbounded still limit used timeScale
  | some bound =>
      rw [limit] at undelayed
      have under := undelayed.resolve_right (Option.some_ne_none bound)
      exact scaled_backoff_of_isFinite still limit (wellFormed.maxDelay bound limit)
        ((isFinite_growth_iff grows).mpr under) timeScale

/-- The delays of a valid entry without an interval.  There is none while the growth is
finite, nor ever if there is no bound; a bound is waited for from the first infinite growth
on.  That never comes at the rate one, and after 1024 retries at the rate two. -/
theorem delays_without_interval {name : String} (accepted : retrier.validate name = .ok ())
    (still : (retrier.interval defaults).isZero = true)
    (fallback : retrier.backoffRate = none →
      (Binary64.ofNat 1).le defaults.backoffRate = true)
    (timeScale : Binary64) :
    (∀ used, ¬ retrier.Overflows defaults used ∨ retrier.maxDelaySeconds = none →
        Delay.scaled (retrier.backoff defaults used) timeScale = 0) ∧
      (∀ used bound, retrier.Overflows defaults used →
        retrier.maxDelaySeconds = some bound →
          Delay.scaled (retrier.backoff defaults used) timeScale =
            Delay.scaled bound timeScale) ∧
      (∀ used later, retrier.Overflows defaults used → used ≤ later →
        retrier.Overflows defaults later) ∧
      ((retrier.rate defaults).le (Binary64.ofNat 1) = true →
        ∀ used, ¬ retrier.Overflows defaults used) ∧
      ((retrier.rate defaults).le (Binary64.ofNat 2) = true →
        ∀ used, used < 1024 → ¬ retrier.Overflows defaults used) ∧
      ((Binary64.ofNat 2).le (retrier.rate defaults) = true →
        ∀ used, 1024 ≤ used → retrier.Overflows defaults used) := by
  have wellFormed := validate_iff_wellFormed.mp accepted
  have grows := wellFormed.one_le_rate fallback
  have two : (Binary64.ofNat 2).AtLeastOne := .of_one_le (by decide)
  refine ⟨?_, ?_, ?_, ?_, ?_, ?_⟩
  · intro used undelayed
    exact wellFormed.scaled_backoff_eq_zero still grows undelayed timeScale
  · intro used bound beyond bounded
    rw [backoff_of_overflows still bounded beyond]
  · intro used later beyond le
    exact beyond.mono grows le
  · intro slow used
    have under : ((Binary64.ofNat 1).power Delay.greatestExponent).isFinite = true := by
      decide +kernel
    exact not_overflows_of_le Binary64.one_atLeastOne grows under slow (min_le_right _ _)
  · intro slow used early
    have under : ((Binary64.ofNat 2).power 1023).isFinite = true := by decide +kernel
    apply not_overflows_of_le two grows under slow
    exact (min_le_left _ _).trans (Nat.le_of_lt_succ early)
  · intro fast used late
    have beyond : (Binary64.ofNat 2).power 1024 = .infinite false := by decide +kernel
    exact overflows_of_le two grows beyond fast (le_min late (by decide))

/-- No interval, the rate of the settings, and a bound of five seconds. -/
def hasty : Retrier :=
  ⟨["Busy"], some (Binary64.ofNat 0), none, none, some (Binary64.ofNat 5)⟩

theorem hasty_delays :
    hasty.validate "Ask" = .ok () ∧
      (hasty.interval RetryDefaults.standard).isZero = true ∧
      (Binary64.ofNat 1).le RetryDefaults.standard.backoffRate = true ∧
      (∀ used, used < 1024 →
        Delay.scaled (hasty.backoff RetryDefaults.standard used) (Binary64.ofNat 1) = 0) ∧
      (∀ used, 1024 ≤ used →
        Delay.scaled (hasty.backoff RetryDefaults.standard used) (Binary64.ofNat 1) =
          5 * Delay.nanosecondsPerSecond) := by
  have accepted : hasty.validate "Ask" = .ok () := by decide +kernel
  have still : (hasty.interval RetryDefaults.standard).isZero = true := by decide +kernel
  have grows : (Binary64.ofNat 1).le RetryDefaults.standard.backoffRate = true := by
    decide +kernel
  obtain ⟨undelayed, bounded, -, -, slow, fast⟩ :=
    delays_without_interval accepted still (fun _ => grows) (Binary64.ofNat 1)
  refine ⟨accepted, still, grows, ?_, ?_⟩
  · intro used early
    exact undelayed used (.inl (slow (by decide +kernel) used early))
  · intro used late
    rw [bounded used _ (fast (by decide +kernel) used late) rfl]
    decide +kernel

/-- No interval, a rate that overflows after two retries, and a bound of five seconds. -/
def steep : Retrier :=
  ⟨[ErrorName.all], some (Binary64.ofNat 0), some (Binary64.ofNat (tenTo 200)), some 3,
    some (Binary64.ofNat 5)⟩

/-- The entry is valid and has no interval, yet its third retry waits for the bound. -/
theorem steep_delayed :
    steep.validate "Ask" = .ok () ∧
      steep.intervalSeconds = some (Binary64.zero false) ∧
      (steep.rate RetryDefaults.standard).isFinite = true ∧
      (Binary64.ofNat 1).le (steep.rate RetryDefaults.standard) = true ∧
      Delay.scaled (steep.backoff RetryDefaults.standard 2) (Binary64.ofNat 1) =
        5000000000 := by
  decide +kernel

end Retrier

namespace RetryPolicy

variable {Progress : Type}

/-- An error either ends the attempts or is charged to its governing entry, whose delay it
then takes. -/
theorem charge_fill_cases (policy : RetryPolicy) (retriers : List Retrier)
    (used : Nat → Nat) (error : String) :
    Budget.charge policy.defaults error (Budget.fill retriers used) = none ∨
      ∃ index retrier, retrier ∈ retriers ∧
        used index < retrier.budget policy.defaults ∧
        Budget.charge policy.defaults error (Budget.fill retriers used) =
          some (retrier.backoff policy.defaults (used index),
            Budget.fill retriers (Budget.raise used index)) := by
  cases governs : governor? retriers error with
  | none => exact .inl (Budget.charge_fill_of_ungoverned governs used)
  | some index =>
      obtain ⟨retrier, found⟩ := governor?_getElem? governs
      rw [Budget.charge_fill governs found]
      by_cases enough : used index < retrier.budget policy.defaults
      · exact .inr ⟨index, retrier, List.mem_of_getElem? found, enough, if_pos enough⟩
      · exact .inl (if_neg enough)

/-- How a workplace would pause does not matter to entries that are never delayed. -/
theorem attemptFrom_of_undelayed {policy : RetryPolicy} {retriers : List Retrier}
    (undelayed : ∀ retrier, retrier ∈ retriers → ∀ used,
      used < retrier.budget policy.defaults →
        Delay.scaled (retrier.backoff policy.defaults used) policy.timeScale = 0)
    (workplace : Workplace Progress) (pause : Nat → Progress → Progress) (number : Nat)
    (used : Nat → Nat) (progress : Progress) :
    policy.attemptFrom { workplace with pause } number (Budget.fill retriers used) progress =
      policy.attemptFrom workplace number (Budget.fill retriers used) progress := by
  induction left_eq : Budget.totalLeft policy.defaults (Budget.fill retriers used) using
    Nat.strongRecOn generalizing number used progress with
  | ind left induction =>
      cases answered : workplace.attempt number progress with
      | mk outcome after =>
          have unchanged : { workplace with pause }.attempt number progress =
              (outcome, after) := answered
          cases outcome with
          | ok value => rw [attemptFrom_ok answered, attemptFrom_ok unchanged]
          | error taskError =>
              rcases charge_fill_cases policy retriers used taskError.error with
                refused | ⟨index, retrier, member, enough, granted⟩
              · rw [attemptFrom_stop answered refused, attemptFrom_stop unchanged refused]
              · have none_left := undelayed retrier member (used index) enough
                have fewer := Budget.totalLeft_charge granted
                rw [attemptFrom_retry answered granted, attemptFrom_retry unchanged granted,
                  paused, paused, if_pos none_left, if_pos none_left]
                exact induction _ (by omega) (number + 1) _ after rfl

/-- Attempts under valid entries without an interval never pause, if each entry has no bound
or does not overflow before its last retry. -/
theorem run_without_interval {policy : RetryPolicy} {retriers : List Retrier}
    (wellFormed : ∀ retrier, retrier ∈ retriers → retrier.WellFormed)
    (fallback : (Binary64.ofNat 1).le policy.defaults.backoffRate = true)
    (still : ∀ retrier, retrier ∈ retriers →
      (retrier.interval policy.defaults).isZero = true)
    (early : ∀ retrier, retrier ∈ retriers →
      ¬ retrier.Overflows policy.defaults (retrier.budget policy.defaults - 1) ∨
        retrier.maxDelaySeconds = none)
    (workplace : Workplace Progress) (pause : Nat → Progress → Progress)
    (progress : Progress) :
    policy.run retriers { workplace with pause } progress =
      policy.run retriers workplace progress := by
  rw [run, run, ← Budget.fill_zero]
  apply attemptFrom_of_undelayed
  intro retrier member used enough
  have valid := wellFormed retrier member
  have grows := valid.one_le_rate fun _ => fallback
  apply valid.scaled_backoff_eq_zero (still retrier member) grows _ policy.timeScale
  apply (early retrier member).imp_left
  intro under beyond
  exact under (beyond.mono grows (Nat.le_sub_one_of_lt enough))

end RetryPolicy

end StatesLanguage
