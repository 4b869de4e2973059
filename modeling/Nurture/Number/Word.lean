/-!
  Machine words

  A signed word of `bits` bits holds the integers from `-bound` up to, and
  without, `bound`. `pow2` and `pow10` are the powers in which sizes and places
  are counted.
-/

namespace Nurture

/-- The power `2^n`. -/
def pow2 (n : Nat) : Nat := 1 <<< n

/-- The power `10^n`. -/
def pow10 (n : Nat) : Nat := Nat.pow 10 n

theorem pow2_eq (n : Nat) : pow2 n = Nat.pow 2 n := by
  rw [pow2, Nat.shiftLeft_eq, Nat.one_mul]
  rfl

namespace Word

/-- The least magnitude that is too large for a positive word of `bits` bits. -/
def bound (bits : Nat) : Nat := pow2 (bits - 1)

/-- Whether a signed word of `bits` bits holds the integer. -/
def holds (bits : Nat) (n : Int) : Bool := -(bound bits : Int) ≤ n && n < bound bits

theorem holds_eq_true_iff {bits : Nat} {n : Int} :
    holds bits n = true ↔ -(bound bits : Int) ≤ n ∧ n < bound bits := by
  simp [holds]

end Word

end Nurture
