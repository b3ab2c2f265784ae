import StatesLanguage.Machine
import StatesLanguage.Settings

/-!
# Delays

The delay before a retry grows by a constant rate and may be bounded; every delay is
multiplied by the time scale and then rounded to whole nanoseconds.
-/

namespace StatesLanguage

namespace Delay

def nanosecondsPerSecond : Nat := 1000000000

/-- The longest delay: all seconds that a word counts, and all but one nanosecond of
another. -/
def longest : Nat :=
  (Number.wordLimit - 1) * nanosecondsPerSecond + (nanosecondsPerSecond - 1)

/-- Seconds in whole nanoseconds, a half going to the even neighbour.  What is not a
positive number is no delay, and what is too long is the longest one. -/
def ofSeconds : Binary64 → Nat
  | .nan => 0
  | .infinite negative => if negative then 0 else longest
  | .finite negative mantissa exponent =>
      if negative then 0
      else
        let numerator := mantissa * twoTo exponent.toNat
        let denominator := twoTo (-exponent).toNat
        if Number.wordLimit * denominator ≤ numerator then longest
        else Binary64.roundQuotient (numerator * nanosecondsPerSecond) denominator

/-- A delay in seconds: the whole seconds and the part of a second are each rounded, and
then their sum. -/
def toSeconds (nanoseconds : Nat) : Binary64 :=
  Binary64.ofNat (nanoseconds / nanosecondsPerSecond) +
    Binary64.ofRatio false (nanoseconds % nanosecondsPerSecond) nanosecondsPerSecond

/-- Seconds under a time scale, in nanoseconds. -/
def scaled (seconds timeScale : Binary64) : Nat :=
  ofSeconds (seconds * timeScale)

/-- Seconds that no clock counts up to. -/
def clockLimit : Nat := twoTo 63

/-- Milliseconds of thirty years without a leap day. -/
def thirtyYears : Nat := 30 * 365 * 86400 * 1000

/-- Whole milliseconds that a wait takes, rounded up.  A wait that ends beyond the
clock is cut to thirty years. -/
def milliseconds (nanoseconds : Nat) : Nat :=
  if clockLimit * nanosecondsPerSecond ≤ nanoseconds then thirtyYears
  else (nanoseconds + 999999) / 1000000

/-- The largest exponent of a power. -/
def greatestExponent : Nat := twoTo 31 - 1

end Delay

/-- The seconds before a retry, where `used` retries went before it. -/
def Retrier.backoff (retrier : Retrier) (defaults : RetryDefaults) (used : Nat) :
    Binary64 :=
  let interval := retrier.intervalSeconds.getD defaults.intervalSeconds
  let rate := retrier.backoffRate.getD defaults.backoffRate
  let delay := interval * rate.power (min used Delay.greatestExponent)
  match retrier.maxDelaySeconds with
  | some bound => delay.minimum bound
  | none => delay

/-- How many retries an entry allows. -/
def Retrier.budget (retrier : Retrier) (defaults : RetryDefaults) : Nat :=
  retrier.maxAttempts.getD defaults.maxAttempts

end StatesLanguage
