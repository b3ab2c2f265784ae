import StatesLanguage.Delay
import StatesLanguage.Machine

/-!
# Events of a run

A journal lists what happened during a run, the latest event first.
-/

namespace StatesLanguage

/-- What happens during a run. -/
inductive Event where
  | started (executionId startAt : String)
  | entered (state : String) (kind : StateKind)
  | attempted (resource : String) (attempt : Nat)
  | invoked (resolver : String) (input : Document)
  | slept (nanoseconds : Nat)
  deriving DecidableEq

/-- Events, the latest first. -/
abbrev Journal := List Event

namespace Journal

/-- The whole milliseconds that an event takes. -/
def duration : Event → Nat
  | .slept nanoseconds => Delay.milliseconds nanoseconds
  | _ => 0

/-- The milliseconds that a run took so far. -/
def elapsed : Journal → Nat
  | [] => 0
  | event :: earlier => duration event + elapsed earlier

/-- The states that were entered, in order. -/
def transitions (journal : Journal) : List String :=
  journal.reverse.filterMap fun
    | .entered state _ => some state
    | _ => none

/-- The milliseconds at which resolvers were asked, with name and input, where
`elapsed` passed before the events given, the earliest first. -/
def invocationsAfter (elapsed : Nat) : List Event → List (Nat × String × Document)
  | [] => []
  | .invoked resolver input :: later =>
      (elapsed, resolver, input) :: invocationsAfter elapsed later
  | event :: later => invocationsAfter (elapsed + duration event) later

/-- The milliseconds at which resolvers were asked, in order, with name and input. -/
def invocations (journal : Journal) : List (Nat × String × Document) :=
  invocationsAfter 0 journal.reverse

end Journal

end StatesLanguage
