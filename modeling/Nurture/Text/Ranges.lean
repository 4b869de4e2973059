/-!
  Ranges of code points

  A character class of the Unicode standard is a list of closed ranges.
-/

namespace Nurture.Text

/-- Closed ranges of code points, in ascending order. -/
abbrev Ranges := List (Nat × Nat)

/-- Whether some range contains the code point. -/
def Ranges.covers (rs : Ranges) (n : Nat) : Bool :=
  rs.any fun r => r.1 ≤ n && n ≤ r.2

@[simp] theorem Ranges.covers_nil (n : Nat) : Ranges.covers [] n = false := rfl

theorem Ranges.covers_iff {rs : Ranges} {n : Nat} :
    rs.covers n = true ↔ ∃ r ∈ rs, r.1 ≤ n ∧ n ≤ r.2 := by
  simp [Ranges.covers]

end Nurture.Text
