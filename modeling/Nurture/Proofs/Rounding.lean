import Mathlib.Algebra.Order.Field.Power
import Mathlib.Algebra.Order.Field.Rat
import Mathlib.Tactic.FieldSimp
import Mathlib.Tactic.Linarith
import Nurture.Calendar.Span

/-!
  Rounding keeps order

  Of two ratios with one denominator the smaller one is not rounded to the greater
  number of the double format (`Binary64.atMost_nearest_of_le`). A span that is within
  an amount of seconds therefore has every shorter span within it
  (`Calendar.Amount.covers_of_le`), though seconds are compared as rounded numbers.

  The exponent is the one at which the ratio has 53 bits, or the least one
  (`exponentFor_spec`). A greater ratio has a greater exponent, or a greater mantissa at
  the same one.
-/

namespace Nurture

namespace Binary64

theorem pow2_eq (n : Nat) : pow2 n = 2 ^ n := Nat.one_shiftLeft n

theorem cast_pow2 (n : Nat) : ((pow2 n : Nat) : ℚ) = 2 ^ (n : Int) := by
  rw [pow2_eq, zpow_natCast]
  push_cast
  rfl

/-! ## Ratios -/

section
variable {num den : Nat} {e : Int}

theorem scaleDown_pos (hden : 0 < den) : 0 < (scaleDown num den e).2 := by
  unfold scaleDown
  split
  · rw [pow2_eq]
    positivity
  · exact hden

theorem scaleDown_eq (hden : 0 < den) :
    ((scaleDown num den e).1 : ℚ) / (scaleDown num den e).2 = num / den / 2 ^ e := by
  have hden' : (den : ℚ) ≠ 0 := by positivity
  unfold scaleDown
  split
  · rename_i he
    have hpow : ((pow2 e.toNat : Nat) : ℚ) = 2 ^ e := by
      rw [cast_pow2, Int.toNat_of_nonneg he]
    push_cast
    rw [hpow, div_div]
  · rename_i he
    have hpow : ((pow2 (-e).toNat : Nat) : ℚ) = (2 ^ e)⁻¹ := by
      rw [cast_pow2, Int.toNat_of_nonneg (by omega), zpow_neg]
    push_cast
    rw [hpow]
    field_simp

theorem ratio_eq (m : Nat) (e : Int) :
    0 < (ratio m e).2 ∧ ((ratio m e).1 : ℚ) / (ratio m e).2 = m * 2 ^ e := by
  unfold ratio
  split
  · rename_i he
    have hpow : ((pow2 e.toNat : Nat) : ℚ) = 2 ^ e := by
      rw [cast_pow2, Int.toNat_of_nonneg he]
    refine ⟨Nat.one_pos, ?_⟩
    push_cast
    rw [hpow, div_one]
  · rename_i he
    have hpow : ((pow2 (-e).toNat : Nat) : ℚ) = (2 ^ e)⁻¹ := by
      rw [cast_pow2, Int.toNat_of_nonneg (by omega), zpow_neg]
    refine ⟨by rw [pow2_eq]; positivity, ?_⟩
    rw [hpow, div_inv_eq_mul]

end

/-- The value of a finite number. -/
def value (negative : Bool) (m : Nat) (e : Int) : ℚ := (if negative then -(m : ℚ) else m) * 2 ^ e

theorem finiteAtMost_iff {s t : Bool} {m n : Nat} {e f : Int} :
    finiteAtMost s m e t n f = true ↔ value s m e ≤ value t n f := by
  obtain ⟨hb, hab⟩ := ratio_eq m e
  obtain ⟨hd, hcd⟩ := ratio_eq n f
  have hb' : (0 : ℚ) < (ratio m e).2 := by exact_mod_cast hb
  have hd' : (0 : ℚ) < (ratio n f).2 := by exact_mod_cast hd
  have hvalue : ∀ (s : Bool) (m : Nat) (e : Int),
      value s m e = (if s then -1 else 1) * (m * 2 ^ e) := by
    intro s m e
    unfold value
    cases s <;> simp
  rw [hvalue, hvalue, ← hab, ← hcd]
  unfold finiteAtMost
  rw [decide_eq_true_iff, ← @Int.cast_le ℚ]
  generalize (ratio m e).1 = a, (ratio m e).2 = b, (ratio n f).1 = c, (ratio n f).2 = d at *
  rw [← mul_div_assoc, ← mul_div_assoc, div_le_div_iff₀ hb' hd']
  cases s <;> cases t <;> simp

/-! ## The exponent -/

section
variable {num num' den : Nat}

theorem log2_bounds (hnum : 0 < num) (hden : 0 < den) :
    (2 : ℚ) ^ ((num.log2 : Int) - den.log2 - 1) < num / den ∧
      (num : ℚ) / den < 2 ^ ((num.log2 : Int) - den.log2 + 1) := by
  have hden' : (0 : ℚ) < den := by exact_mod_cast hden
  have hle : ∀ n : Nat, 0 < n → (2 : ℚ) ^ (n.log2 : Int) ≤ n := by
    intro n hn
    rw [zpow_natCast]
    exact_mod_cast Nat.log2_self_le (Nat.ne_of_gt hn)
  have hlt : ∀ n : Nat, (n : ℚ) < 2 ^ ((n.log2 : Int) + 1) := by
    intro n
    have h : (n : ℚ) < 2 ^ (n.log2 + 1) := by exact_mod_cast Nat.lt_log2_self
    exact_mod_cast h
  constructor
  · rw [lt_div_iff₀ hden']
    calc (2 : ℚ) ^ ((num.log2 : Int) - den.log2 - 1) * den
        < 2 ^ ((num.log2 : Int) - den.log2 - 1) * 2 ^ ((den.log2 : Int) + 1) :=
          mul_lt_mul_of_pos_left (hlt den) (by positivity)
      _ = 2 ^ (num.log2 : Int) := by
          rw [← zpow_add₀ two_ne_zero]
          congr 1
          omega
      _ ≤ num := hle num hnum
  · rw [div_lt_iff₀ hden']
    calc (num : ℚ) < 2 ^ ((num.log2 : Int) + 1) := hlt num
      _ = 2 ^ ((num.log2 : Int) - den.log2 + 1) * 2 ^ (den.log2 : Int) := by
          rw [← zpow_add₀ two_ne_zero]
          congr 1
          omega
      _ ≤ 2 ^ ((num.log2 : Int) - den.log2 + 1) * den :=
          mul_le_mul_of_nonneg_left (hle den hden) (by positivity)

theorem scaled_lt_pow2_iff (e : Int) (k : Nat) (hden : 0 < den) :
    (scaleDown num den e).1 / (scaleDown num den e).2 < pow2 k ↔
      (num : ℚ) / den < 2 ^ (e + k) := by
  have hb : 0 < (scaleDown num den e).2 := scaleDown_pos hden
  have hb' : (0 : ℚ) < (scaleDown num den e).2 := by exact_mod_cast hb
  have hpow : (0 : ℚ) < 2 ^ e := by positivity
  rw [Nat.div_lt_iff_lt_mul hb, ← @Nat.cast_lt ℚ]
  push_cast
  rw [← div_lt_iff₀ hb', scaleDown_eq hden, cast_pow2, div_lt_iff₀ hpow, ← zpow_add₀ two_ne_zero,
    add_comm]

/-- At the exponent a ratio has at most 53 bits, and not fewer unless it is the least exponent. -/
theorem exponentFor_spec (hnum : 0 < num) (hden : 0 < den) :
    (num : ℚ) / den < 2 ^ (exponentFor num den + 53) ∧ minExponent ≤ exponentFor num den ∧
      (exponentFor num den = minExponent ∨
        (2 : ℚ) ^ (exponentFor num den + 52) ≤ num / den) := by
  obtain ⟨hlow, hhigh⟩ := log2_bounds hnum hden
  obtain ⟨guess, hguess⟩ : ∃ guess : Int, guess = (num.log2 : Int) - den.log2 - 52 := ⟨_, rfl⟩
  have hpow : ∀ {a b : Int}, a ≤ b → (2 : ℚ) ^ a ≤ 2 ^ b := fun h =>
    zpow_le_zpow_right₀ one_le_two h
  obtain ⟨e, he, hbelow, habove⟩ : ∃ e, exponentFor num den = max minExponent e ∧
      (num : ℚ) / den < 2 ^ (e + 53) ∧ (2 : ℚ) ^ (e + 52) ≤ num / den := by
    have hdef : exponentFor num den = max minExponent
        (if (scaleDown num den guess).1 / (scaleDown num den guess).2 < pow2 52
          then guess - 1 else guess) := by
      rw [hguess]
      rfl
    by_cases hfew : (num : ℚ) / den < 2 ^ (guess + 52)
    · -- the guess is one too high
      rw [if_pos ((scaled_lt_pow2_iff guess 52 hden).mpr hfew)] at hdef
      refine ⟨guess - 1, hdef, ?_, ?_⟩
      · exact hfew.trans_le (hpow (by omega))
      · exact (hpow (by omega)).trans hlow.le
    · rw [if_neg (mt (scaled_lt_pow2_iff guess 52 hden).mp hfew)] at hdef
      refine ⟨guess, hdef, ?_, not_lt.mp hfew⟩
      exact hhigh.trans_le (hpow (by omega))
  rw [he]
  refine ⟨hbelow.trans_le (hpow (by omega)), le_max_left _ _, ?_⟩
  rcases le_total e minExponent with h | h
  · exact .inl (max_eq_left h)
  · rw [max_eq_right h]
    exact .inr habove

theorem exponentFor_mono (hnum : 0 < num) (hden : 0 < den) (h : num ≤ num') :
    exponentFor num den ≤ exponentFor num' den := by
  obtain ⟨-, -, hlow⟩ := exponentFor_spec hnum hden
  obtain ⟨hhigh, hleast, -⟩ := exponentFor_spec (Nat.lt_of_lt_of_le hnum h) hden
  have hle : (num : ℚ) / den ≤ num' / den := by gcongr
  rcases hlow with heq | hlow
  · rw [heq]
    exact hleast
  · have hlt : exponentFor num den + 52 < exponentFor num' den + 53 :=
      (zpow_lt_zpow_iff_right₀ one_lt_two).mp ((hlow.trans hle).trans_lt hhigh)
    omega

/-! ## The mantissa -/

theorem roundDiv_bounds (a b : Nat) : a / b ≤ roundDiv a b ∧ roundDiv a b ≤ a / b + 1 := by
  unfold roundDiv
  dsimp only
  split <;> omega

theorem roundDiv_mono {a a' b : Nat} (h : a ≤ a') : roundDiv a b ≤ roundDiv a' b := by
  have hq : a / b ≤ a' / b := Nat.div_le_div_right h
  rcases Nat.lt_or_eq_of_le hq with hlt | heq
  · have hup := (roundDiv_bounds a b).2
    have hdown := (roundDiv_bounds a' b).1
    omega
  · -- the remainders decide
    have hr : a % b ≤ a' % b := by
      have h₁ := Nat.div_add_mod a b
      have h₂ := Nat.div_add_mod a' b
      rw [heq] at h₁
      omega
    unfold roundDiv
    dsimp only
    rw [heq]
    split
    · split
      · exact Nat.le_refl _
      · simp_all
        omega
    · split <;> omega

/-- The mantissa and the exponent of the number nearest to a ratio. -/
def nearestPair (num den : Nat) : Nat × Int :=
  let e := exponentFor num den
  let m := roundDiv (scaleDown num den e).1 (scaleDown num den e).2
  if m = 2 * fullMantissa then (fullMantissa, e + 1) else (m, e)

theorem nearest_eq (negative : Bool) (hnum : 0 < num) :
    nearest negative num den = if maxExponent < (nearestPair num den).2 then infinity negative
      else finite negative (nearestPair num den).1 (nearestPair num den).2 := by
  unfold nearest nearestPair
  rw [if_neg (Nat.ne_of_gt hnum)]

/-- The mantissa before a carry. -/
def roundedMantissa (num den : Nat) : Nat :=
  roundDiv (scaleDown num den (exponentFor num den)).1 (scaleDown num den (exponentFor num den)).2

/-- A carry changes the form of a number and not its magnitude. -/
theorem nearestPair_spec (hnum : 0 < num) (hden : 0 < den) :
    ((nearestPair num den).1 : ℚ) * 2 ^ (nearestPair num den).2
        = roundedMantissa num den * 2 ^ exponentFor num den ∧
      (nearestPair num den).2
        = exponentFor num den + (if roundedMantissa num den = pow2 53 then 1 else 0) ∧
      roundedMantissa num den ≤ pow2 53 := by
  have htwice : 2 * fullMantissa = pow2 53 := by decide
  have hbits : roundedMantissa num den ≤ pow2 53 := by
    have hlt :=
      (scaled_lt_pow2_iff (exponentFor num den) 53 hden).mpr (exponentFor_spec hnum hden).1
    have hup := (roundDiv_bounds (scaleDown num den (exponentFor num den)).1
      (scaleDown num den (exponentFor num den)).2).2
    unfold roundedMantissa
    omega
  by_cases hcarry : roundedMantissa num den = pow2 53
  · have hpair : nearestPair num den = (fullMantissa, exponentFor num den + 1) :=
      if_pos (hcarry.trans htwice.symm)
    have hcast : (fullMantissa : ℚ) * 2 = (pow2 53 : Nat) := by
      rw [← htwice, Nat.cast_mul, Nat.cast_two, mul_comm]
    rw [hpair, hcarry, if_pos rfl]
    refine ⟨?_, rfl, Nat.le_refl _⟩
    rw [zpow_add_one₀ two_ne_zero, ← hcast, mul_assoc, mul_comm (2 : ℚ)]
  · have hpair : nearestPair num den = (roundedMantissa num den, exponentFor num den) :=
      if_neg (fun h => hcarry (h.trans htwice))
    rw [hpair, if_neg hcarry]
    exact ⟨rfl, (Int.add_zero _).symm, hbits⟩

/-- A greater ratio has no smaller exponent and no smaller magnitude. -/
theorem nearestPair_mono (hnum : 0 < num) (hden : 0 < den) (h : num ≤ num') :
    (nearestPair num den).2 ≤ (nearestPair num' den).2 ∧
      ((nearestPair num den).1 : ℚ) * 2 ^ (nearestPair num den).2
        ≤ (nearestPair num' den).1 * 2 ^ (nearestPair num' den).2 := by
  have hnum' : 0 < num' := Nat.lt_of_lt_of_le hnum h
  obtain ⟨hvalue, hexp, hbits⟩ := nearestPair_spec hnum hden
  obtain ⟨hvalue', hexp', hbits'⟩ := nearestPair_spec hnum' hden
  rw [hvalue, hvalue', hexp, hexp']
  rcases (exponentFor_mono hnum hden h).eq_or_lt with heq | hlt
  · -- one exponent: the mantissas decide
    have hle : roundedMantissa num den ≤ roundedMantissa num' den := by
      unfold roundedMantissa
      rw [← heq]
      unfold scaleDown
      split
      · exact roundDiv_mono h
      · exact roundDiv_mono (Nat.mul_le_mul_right _ h)
    rw [← heq]
    refine ⟨?_, by gcongr⟩
    split <;> split <;> omega
  · -- a greater exponent: the mantissa there is full
    have hfull : pow2 52 ≤ roundedMantissa num' den := by
      have hnot : ¬ (num' : ℚ) / den < 2 ^ (exponentFor num' den + 52) := by
        rcases (exponentFor_spec hnum' hden).2.2 with hleast | hlow
        · have := (exponentFor_spec hnum hden).2.1
          omega
        · exact not_lt.mpr hlow
      have hdown := (roundDiv_bounds (scaleDown num' den (exponentFor num' den)).1
        (scaleDown num' den (exponentFor num' den)).2).1
      exact (not_lt.mp (mt (scaled_lt_pow2_iff _ 52 hden).mp hnot)).trans hdown
    refine ⟨?_, ?_⟩
    · split <;> split <;> omega
    · calc (roundedMantissa num den : ℚ) * 2 ^ exponentFor num den
          ≤ (pow2 53 : Nat) * 2 ^ exponentFor num den := by gcongr
        _ = 2 ^ (exponentFor num den + 53) := by
            rw [cast_pow2, ← zpow_add₀ two_ne_zero, add_comm]
            rfl
        _ ≤ 2 ^ (exponentFor num' den + 52) := zpow_le_zpow_right₀ one_le_two (by omega)
        _ = (pow2 52 : Nat) * 2 ^ exponentFor num' den := by
            rw [cast_pow2, ← zpow_add₀ two_ne_zero, add_comm]
            rfl
        _ ≤ roundedMantissa num' den * 2 ^ exponentFor num' den := by gcongr

/-- The number of a magnitude that is not too great. -/
def capped (m : Nat) (e : Int) : Binary64 :=
  if maxExponent < e then infinity false else finite false m e

theorem atMost_capped_of_le {m m' : Nat} {e e' : Int} {x : Binary64} (he : e ≤ e')
    (h : (m : ℚ) * 2 ^ e ≤ m' * 2 ^ e') (hx : (capped m' e').atMost x = true) :
    (capped m e).atMost x = true := by
  unfold capped at hx ⊢
  by_cases hgreat : maxExponent < e
  · rw [if_pos (by omega)] at hx
    rw [if_pos hgreat]
    exact hx
  · rw [if_neg hgreat]
    cases x with
    | nan => split at hx <;> cases hx
    | infinity negative =>
      cases negative with
      | false => rfl
      | true => split at hx <;> cases hx
    | finite t n f =>
      by_cases hgreat' : maxExponent < e'
      · rw [if_pos hgreat'] at hx
        cases hx
      · rw [if_neg hgreat'] at hx
        exact finiteAtMost_iff.mpr (h.trans (finiteAtMost_iff.mp hx))

theorem atMost_nearest_of_le {x : Binary64} (hden : 0 < den) (h : num ≤ num')
    (hx : (nearest false num' den).atMost x = true) : (nearest false num den).atMost x = true := by
  rcases Nat.eq_zero_or_pos num' with rfl | hnum'
  · rwa [Nat.le_zero.mp h]
  · rw [nearest_eq false hnum'] at hx
    rcases Nat.eq_zero_or_pos num with rfl | hnum
    · -- zero has the least exponent
      have hleast : minExponent ≤ (nearestPair num' den).2 := by
        have := (exponentFor_spec hnum' hden).2.1
        rw [(nearestPair_spec hnum' hden).2.1]
        split <;> omega
      refine atMost_capped_of_le (m := 0) hleast ?_ hx
      rw [Nat.cast_zero, zero_mul]
      positivity
    · obtain ⟨hexp, hvalue⟩ := nearestPair_mono hnum hden h
      rw [nearest_eq false hnum]
      exact atMost_capped_of_le hexp hvalue hx

end

end Binary64

namespace Calendar.Amount

/-- A span that is no longer than one within the amount is within it. -/
theorem covers_of_le {a : Amount} {span span' : Int} (h : span.natAbs ≤ span'.natAbs)
    (hcovers : a.covers span' = true) : a.covers span = true := by
  cases a with
  | whole n =>
    unfold covers at hcovers ⊢
    rw [decide_eq_true_iff] at hcovers ⊢
    omega
  | real x => exact Binary64.atMost_nearest_of_le (by decide) h hcovers

theorem covers_whole_iff {n span : Int} :
    (whole n).covers span = true ↔ (span.natAbs : Int) ≤ n * second :=
  decide_eq_true_iff

end Calendar.Amount

end Nurture
