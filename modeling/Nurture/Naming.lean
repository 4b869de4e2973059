import Nurture.Text.Half

/-!
  Identifiers

  What is kept without an identifier of its own is given a new one. Where new
  identifiers come from is left open: a naming has one for each number of each
  kind. They can be kept as text, and those of one kind differ.
-/

namespace Nurture

/-- The kinds of what is given identifiers. -/
inductive Kind where
  | funnel
  | execution
  | lead
  | template
  | stock
  deriving DecidableEq, Repr

/-- New identifiers, those of each kind by number. -/
structure Naming where
  name : Kind → Nat → String
  whole : ∀ kind n, Text.isWhole (name kind n) = true
  ne_empty : ∀ kind n, name kind n ≠ ""
  distinct : ∀ kind m n, name kind m = name kind n → m = n

namespace Naming

/-- What identifiers of a kind begin with when they are counted. -/
def label : Kind → String
  | .funnel => "funnel-"
  | .execution => "exec-"
  | .lead => "lead-"
  | .template => "template-"
  | .stock => "stock-"

theorem isWhole_digits (n : Nat) : Text.isWhole (toString n) = true := by
  refine List.all_eq_true.mpr fun c hc => ?_
  change c ∈ (Nat.repr n).toList at hc
  rw [Nat.toList_repr] at hc
  -- Digits stand far below what stands for halves.
  have hdigit := Nat.isDigit_of_mem_toDigits (by decide) (by decide) hc
  have hle : c.toNat ≤ '9'.toNat := by
    simp only [Char.isDigit, Bool.and_eq_true, decide_eq_true_eq] at hdigit
    exact hdigit.2
  have hlow : ¬ Text.firstStandIn ≤ c.toNat := by
    have : '9'.toNat < Text.firstStandIn := by decide
    omega
  simp [Text.half?, hlow]

/-- The identifiers of a kind are counted. -/
def counted : Naming where
  name kind n := label kind ++ toString n
  whole kind n := by
    have hlabel : (label kind).toList.all (fun c => (Text.half? c).isNone) = true := by
      cases kind <;> decide
    rw [Text.isWhole, String.toList_append, List.all_append, Bool.and_eq_true]
    exact ⟨hlabel, isWhole_digits n⟩
  ne_empty kind n h := by
    have hlength := congrArg String.length h
    rw [String.length_append] at hlength
    have hlabel : 0 < (label kind).length := by cases kind <;> decide
    have hempty : "".length = 0 := by decide
    omega
  distinct kind m n h := by
    have htexts : (m.repr : String) = n.repr := (String.append_right_inj _).mp h
    have hdigits : Nat.toDigits 10 m = Nat.toDigits 10 n := by
      rw [← Nat.toList_repr, htexts, Nat.toList_repr]
    calc
      m = Nat.ofDigitChars 10 (Nat.toDigits 10 m) 0 := Nat.ofDigitChars_ten_toDigits.symm
      _ = Nat.ofDigitChars 10 (Nat.toDigits 10 n) 0 := by rw [hdigits]
      _ = n := Nat.ofDigitChars_ten_toDigits

end Naming

end Nurture
