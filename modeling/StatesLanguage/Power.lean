/-!
# Powers

Powers of the two bases that numbers are written in.
-/

namespace StatesLanguage

def twoTo (exponent : Nat) : Nat := Nat.pow 2 exponent

def tenTo (exponent : Nat) : Nat := Nat.pow 10 exponent

theorem twoTo_succ (exponent : Nat) : twoTo (exponent + 1) = twoTo exponent * 2 := rfl

theorem twoTo_pos (exponent : Nat) : 0 < twoTo exponent := by
  induction exponent with
  | zero => exact Nat.zero_lt_one
  | succ exponent induction =>
      rw [twoTo_succ]
      omega

end StatesLanguage
