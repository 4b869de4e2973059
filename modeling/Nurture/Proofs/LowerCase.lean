import Mathlib.Data.List.DropRight
import Mathlib.Data.Nat.Bitwise
import Nurture.Lead

/-!
  Normal forms are stable

  An email address is brought into normal form when it is kept, when it is looked for and when its
  row is read. These agree because the normal form of a normal form is itself
  (`Lead.normalEmail_normalEmail`): lower case leaves no character that has another
  lower case, whatever stands around it, and makes no white space.

  That the images of the case table have no images of their own is a fact about
  the table. All code points it maps are the bits of one number, so looking
  for an image among them is looking at one bit.
-/

namespace Nurture

namespace Text

/-! ## The case table -/

/-- How many steps a run has beyond its first code point. -/
def CaseRun.steps (r : CaseRun) : Nat := (r.last - r.first) / r.step

/-- The code point after some steps. -/
def CaseRun.point (r : CaseRun) (k : Nat) : Nat := r.first + k * r.step

/-- The lower-case form of the code point after some steps. -/
def CaseRun.image (r : CaseRun) (k : Nat) : Nat := ((r.point k : Int) + r.shift).toNat

theorem CaseRun.exists_point {r : CaseRun} {n : Nat} (h : r.covers n = true) :
    ∃ k ≤ r.steps, n = r.point k := by
  simp only [covers, Bool.and_eq_true, decide_eq_true_eq, beq_iff_eq] at h
  obtain ⟨⟨hfirst, hlast⟩, hmod⟩ := h
  refine ⟨(n - r.first) / r.step, Nat.div_le_div_right (by omega), ?_⟩
  have hdiv : (n - r.first) / r.step * r.step = n - r.first :=
    Nat.div_mul_cancel (Nat.dvd_of_mod_eq_zero hmod)
  rw [point, hdiv]
  omega

/-- A number with the bits of the code points after up to `k` steps. -/
def CaseRun.mask (r : CaseRun) : Nat → Nat
  | 0 => 1 <<< r.point 0
  | k + 1 => r.mask k ||| 1 <<< r.point (k + 1)

/-- A number with the bits of all code points of the runs. -/
def maskOf (runs : List CaseRun) : Nat := runs.foldr (fun r m => r.mask r.steps ||| m) 0

theorem CaseRun.testBit_mask (r : CaseRun) {j k : Nat} (h : j ≤ k) :
    (r.mask k).testBit (r.point j) = true := by
  have hbit : ∀ i, (1 <<< r.point i).testBit (r.point i) = true := fun i => by
    rw [Nat.one_shiftLeft, Nat.testBit_two_pow_self]
  induction k with
  | zero =>
    obtain rfl := Nat.le_zero.mp h
    exact hbit 0
  | succ k ih =>
    rw [mask, Nat.testBit_or, Bool.or_eq_true]
    rcases Nat.le_succ_iff.mp h with hle | rfl
    · exact .inl (ih hle)
    · exact .inr (hbit _)

theorem testBit_maskOf {runs : List CaseRun} {n : Nat} (h : ∃ r ∈ runs, r.covers n = true) :
    (maskOf runs).testBit n = true := by
  induction runs with
  | nil => simp at h
  | cons r runs ih =>
    rw [maskOf, List.foldr_cons, Nat.testBit_or, Bool.or_eq_true]
    obtain ⟨r', hr', hcovers⟩ := h
    rcases List.mem_cons.mp hr' with rfl | hmem
    · obtain ⟨k, hk, rfl⟩ := CaseRun.exists_point hcovers
      exact .inl (r'.testBit_mask hk)
    · exact .inr (ih ⟨r', hmem, hcovers⟩)

/-- White space and separators, and the two exceptions to the table. -/
def oddRanges : Ranges := blankRanges ++ [(0x1c, 0x1f), (0x130, 0x130), (0x3a3, 0x3a3)]

/-- The code points that no lower case has: those with a lower case of their own, and white
space. -/
def fleetingRuns : List CaseRun := lowerRuns ++ oddRanges.map fun r => ⟨r.1, r.2, 1, 0⟩

/-- Whether the code point is that of a character that stands for no half, and its bit is not set
in a mask. -/
def avoids (mask n : Nat) : Bool :=
  n.isValidChar && Nat.blt n firstStandIn && Nat.beq (Nat.land 1 (Nat.shiftRight mask n)) 0

/-- No image in the case table is fleeting. -/
theorem image_avoids : ∀ r ∈ lowerRuns, ∀ k < r.steps + 1,
    avoids (maskOf fleetingRuns) (r.image k) = true := by
  decide +kernel

/-! ## Characters -/

/-- The character stays as it is in lower case, whatever stands around it. -/
def IsLower (c : Char) : Prop := c.toNat ≠ 0x3a3 ∧ lowerChar c = [c]

/-- A character of lower case that is no white space and stands for no half. -/
structure IsSettled (c : Char) : Prop where
  isLower : IsLower c
  isSpacing_eq : isSpacing c = false
  half?_eq : half? c = none

theorem oddRanges_covers_of_isSpacing {c : Char} (h : isSpacing c = true) :
    oddRanges.covers c.toNat = true := by
  rw [isSpacing, Bool.or_eq_true] at h
  rw [oddRanges, Ranges.covers, List.any_append, Bool.or_eq_true]
  refine h.imp id fun hseparator => ?_
  rw [List.any_cons, hseparator, Bool.true_or]

theorem toLower_cases (c : Char) :
    0x41 ≤ c.toNat ∧ c.toNat ≤ 0x5a ∧ c.toLower.toNat = c.toNat + 32 ∨
      ¬ (0x41 ≤ c.toNat ∧ c.toNat ≤ 0x5a) ∧ c.toLower = c := by
  have hbounds : (c.val ≥ 'A'.val ∧ c.val ≤ 'Z'.val) ↔ 0x41 ≤ c.toNat ∧ c.toNat ≤ 0x5a := by
    rw [ge_iff_le, UInt32.le_iff_toNat_le, UInt32.le_iff_toNat_le]
    rfl
  unfold Char.toLower
  split
  · rename_i h
    obtain ⟨hlow, hhigh⟩ := hbounds.mp h
    refine .inl ⟨hlow, hhigh, ?_⟩
    show (c.val + ('a'.val - 'A'.val)).toNat = c.val.toNat + 32
    rw [UInt32.toNat_add]
    have hshift : ('a'.val - 'A'.val).toNat = 32 := rfl
    have hhigh' : c.val.toNat ≤ 0x5a := hhigh
    omega
  · rename_i h
    exact .inr ⟨fun h' => h (hbounds.mpr h'), rfl⟩

theorem isLower_of_not_covers {c : Char} (h : ∀ r ∈ lowerRuns, r.covers c.toNat = false)
    (hdotted : c.toNat ≠ 0x130) (hsigma : c.toNat ≠ 0x3a3) : IsLower c := by
  refine ⟨hsigma, ?_⟩
  unfold lowerChar
  dsimp only
  split
  · rcases toLower_cases c with ⟨hlow, hhigh, -⟩ | ⟨-, heq⟩
    · have hcovers : CaseRun.covers ⟨0x41, 0x5a, 1, 32⟩ c.toNat = true := by
        simp [CaseRun.covers, hlow, hhigh, Nat.mod_one]
      exact absurd (h _ List.mem_cons_self) (by simp [hcovers])
    · rw [heq]
  · rw [List.find?_eq_none.mpr (by simpa using h)]

theorem isSettled_of_avoids {n : Nat} (h : avoids (maskOf fleetingRuns) n = true) :
    IsSettled (Char.ofNat n) := by
  simp only [avoids, Bool.and_eq_true, decide_eq_true_eq, Nat.blt_eq, Nat.beq_eq] at h
  obtain ⟨⟨hvalid, hstandIn⟩, hbit⟩ := h
  have hn : (Char.ofNat n).toNat = n := congrArg Char.toNat (dif_pos hvalid)
  have hclear : (maskOf fleetingRuns).testBit n = false := bne_eq_false_iff_eq.mpr hbit
  have hruns : ∀ r ∈ fleetingRuns, r.covers n = false := fun r hr =>
    Bool.eq_false_iff.mpr fun hcovers =>
      Bool.false_ne_true (hclear.symm.trans (testBit_maskOf ⟨r, hr, hcovers⟩))
  have hodd : ∀ r ∈ oddRanges, ¬ (r.1 ≤ n ∧ n ≤ r.2) := fun r hr hin => by
    have := hruns ⟨r.1, r.2, 1, 0⟩ (List.mem_append_right _ (List.mem_map_of_mem hr))
    simp [CaseRun.covers, hin, Nat.mod_one] at this
  rw [← hn] at hodd
  refine ⟨isLower_of_not_covers ?_ ?_ ?_, ?_, ?_⟩
  · rw [hn]
    exact fun r hr => hruns r (List.mem_append_left _ hr)
  · exact fun hdotted => hodd (0x130, 0x130) (by simp [oddRanges]) (by simp [hdotted])
  · exact fun hsigma => hodd (0x3a3, 0x3a3) (by simp [oddRanges]) (by simp [hsigma])
  · refine Bool.eq_false_iff.mpr fun hspacing => ?_
    obtain ⟨r, hr, hin⟩ := Ranges.covers_iff.mp (oddRanges_covers_of_isSpacing hspacing)
    exact hodd r hr hin
  · simp [half?, hn, Nat.not_le.mpr hstandIn]

theorem isSettled_image {r : CaseRun} {n : Nat} (hr : r ∈ lowerRuns) (h : r.covers n = true) :
    IsSettled (Char.ofNat ((n : Int) + r.shift).toNat) := by
  obtain ⟨k, hk, rfl⟩ := CaseRun.exists_point h
  exact isSettled_of_avoids (image_avoids r hr k (Nat.lt_succ_of_le hk))

/-- Lower case is made of settled characters, and of those that are in lower case already. -/
theorem lowerChar_settled {c d : Char} (hsigma : c.toNat ≠ 0x3a3) (hd : d ∈ lowerChar c) :
    IsSettled d ∨ IsLower d ∧ d = c := by
  unfold lowerChar at hd
  dsimp only at hd
  split at hd
  · -- ASCII
    rename_i hascii
    obtain rfl := List.mem_singleton.mp hd
    rcases toLower_cases c with ⟨hlow, hhigh, htoNat⟩ | ⟨-, heq⟩
    · have hcovers : CaseRun.covers ⟨0x41, 0x5a, 1, 32⟩ c.toNat = true := by
        simp [CaseRun.covers, hlow, hhigh, Nat.mod_one]
      have hd : c.toLower = Char.ofNat ((c.toNat : Int) + 32).toNat := by
        rw [← Char.ofNat_toNat c.toLower, htoNat]
        congr 1
      exact .inl (hd ▸ isSettled_image List.mem_cons_self hcovers)
    · rw [heq]
      exact .inr ⟨⟨hsigma, by simp [lowerChar, hascii, heq]⟩, rfl⟩
  · split at hd
    · -- the dotted capital I
      left
      simp only [List.mem_cons, List.not_mem_nil, or_false] at hd
      rcases hd with rfl | rfl
      · exact isSettled_of_avoids (n := 0x69) (by decide +kernel)
      · exact isSettled_of_avoids (by decide +kernel)
    · rename_i hdotted
      split at hd
      · rename_i run hfind
        obtain rfl := List.mem_singleton.mp hd
        have hcovers : run.covers c.toNat = true := by simpa using List.find?_some hfind
        exact .inl (isSettled_image (List.mem_of_find?_eq_some hfind) hcovers)
      · rename_i hfind
        obtain rfl := List.mem_singleton.mp hd
        exact .inr ⟨isLower_of_not_covers (by simpa using hfind) hdotted hsigma, rfl⟩

theorem lowerSigma_settled (before after : List Char) : IsSettled (lowerSigma before after) := by
  unfold lowerSigma
  split
  · exact isSettled_of_avoids (by decide +kernel)
  · exact isSettled_of_avoids (by decide +kernel)

theorem lowerChar_ne_nil (c : Char) : lowerChar c ≠ [] := by
  unfold lowerChar
  dsimp only
  split
  · simp
  · split
    · simp
    · split <;> simp

/-! ## Texts -/

/-- The lower case of one character of a text. -/
def lowerOne (before : List Char) (c : Char) (rest : List Char) : List Char :=
  if c.toNat = 0x3a3 then [lowerSigma before rest] else lowerChar c

theorem lowerAfter_cons (before : List Char) (c : Char) (rest : List Char) :
    lowerAfter before (c :: rest) = lowerOne before c rest ++ lowerAfter (c :: before) rest := rfl

theorem lowerOne_ne_nil (before : List Char) (c : Char) (rest : List Char) :
    lowerOne before c rest ≠ [] := by
  unfold lowerOne
  split
  · simp
  · exact lowerChar_ne_nil c

theorem lowerOne_settled {before rest : List Char} {c d : Char} (h : d ∈ lowerOne before c rest) :
    IsSettled d ∨ IsLower d ∧ d = c := by
  unfold lowerOne at h
  split at h
  · obtain rfl := List.mem_singleton.mp h
    exact .inl (lowerSigma_settled before rest)
  · rename_i hsigma
    exact lowerChar_settled hsigma h

theorem lowerAfter_settled {before cs : List Char} {d : Char} (h : d ∈ lowerAfter before cs) :
    IsSettled d ∨ IsLower d ∧ d ∈ cs := by
  induction cs generalizing before with
  | nil => simp at h
  | cons c cs ih =>
    rw [lowerAfter_cons, List.mem_append] at h
    rcases h with h | h
    · exact (lowerOne_settled h).imp_right fun ⟨hlow, heq⟩ => ⟨hlow, heq ▸ List.mem_cons_self⟩
    · exact (ih h).imp_right fun ⟨hlow, hmem⟩ => ⟨hlow, List.mem_cons_of_mem c hmem⟩

theorem lowerAfter_of_isLower {before cs : List Char} (h : ∀ c ∈ cs, IsLower c) :
    lowerAfter before cs = cs := by
  induction cs generalizing before with
  | nil => rfl
  | cons c cs ih =>
    obtain ⟨hsigma, hlower⟩ := h c List.mem_cons_self
    rw [lowerAfter_cons, lowerOne, if_neg hsigma, hlower,
      ih fun d hd => h d (List.mem_cons_of_mem c hd)]
    rfl

theorem lowerAfter_ne_nil (before : List Char) {cs : List Char} (h : cs ≠ []) :
    lowerAfter before cs ≠ [] := by
  cases cs with
  | nil => exact absurd rfl h
  | cons c cs => simp [lowerAfter_cons, lowerOne_ne_nil]

theorem isSpacing_head?_lowerAfter {before cs : List Char}
    (h : ∀ c ∈ cs.head?, isSpacing c = false) :
    ∀ d ∈ (lowerAfter before cs).head?, isSpacing d = false := by
  intro d hd
  cases cs with
  | nil => simp at hd
  | cons c cs =>
    rw [lowerAfter_cons, List.head?_append] at hd
    obtain ⟨d', hd'⟩ := Option.ne_none_iff_exists'.mp
      (mt List.head?_eq_none_iff.mp (lowerOne_ne_nil before c cs))
    rw [hd'] at hd
    obtain rfl := Option.some.inj hd
    rcases lowerOne_settled (List.mem_of_mem_head? hd') with hsettled | ⟨-, rfl⟩
    · exact hsettled.isSpacing_eq
    · exact h _ rfl

theorem isSpacing_getLast?_lowerAfter {before cs : List Char}
    (h : ∀ c ∈ cs.getLast?, isSpacing c = false) :
    ∀ d ∈ (lowerAfter before cs).getLast?, isSpacing d = false := by
  induction cs generalizing before with
  | nil => simp
  | cons c cs ih =>
    intro d hd
    rw [lowerAfter_cons, List.getLast?_append] at hd
    cases cs with
    | nil =>
      rw [lowerAfter_nil, List.getLast?_nil, Option.none_or] at hd
      rcases lowerOne_settled (List.mem_of_getLast? hd) with hsettled | ⟨-, rfl⟩
      · exact hsettled.isSpacing_eq
      · exact h d rfl
    | cons c' cs =>
      obtain ⟨d', hd'⟩ := Option.ne_none_iff_exists'.mp
        (mt List.getLast?_eq_none_iff.mp (lowerAfter_ne_nil (c :: before) (List.cons_ne_nil c' cs)))
      rw [hd'] at hd
      obtain rfl := Option.some.inj hd
      exact ih (by simpa using h) _ hd'

theorem trimBy_of_ends {p : Char → Bool} {cs : List Char} (hhead : ∀ c ∈ cs.head?, p c = false)
    (hlast : ∀ c ∈ cs.getLast?, p c = false) : trimBy p cs = cs := by
  have hdrop : ∀ l : List Char, (∀ c ∈ l.head?, p c = false) → l.dropWhile p = l := by
    rintro (_ | ⟨c, l⟩) hl
    · rfl
    · rw [List.dropWhile_cons_of_neg (by simp [hl c rfl])]
  rw [trimBy, hdrop cs hhead, hdrop cs.reverse (by rwa [List.head?_reverse]), List.reverse_reverse]

theorem head?_dropWhile {p : Char → Bool} (cs : List Char) :
    ∀ c ∈ (cs.dropWhile p).head?, p c = false := by
  intro c hc
  have hnot := List.head?_dropWhile_not p cs
  rw [hc] at hnot
  exact hnot

theorem ends_trimBy (p : Char → Bool) (cs : List Char) :
    (∀ c ∈ (trimBy p cs).head?, p c = false) ∧ ∀ c ∈ (trimBy p cs).getLast?, p c = false := by
  constructor
  · intro c hc
    obtain ⟨ending, hprefix⟩ := List.rdropWhile_prefix p (cs.dropWhile p)
    refine head?_dropWhile cs c ?_
    rw [← hprefix, List.head?_append]
    exact Option.mem_def.mpr (by rw [List.rdropWhile, ← trimBy, Option.mem_def.mp hc]; rfl)
  · rw [trimBy]
    intro c hc
    rw [List.getLast?_reverse] at hc
    exact head?_dropWhile _ c hc

theorem mem_of_mem_trimBy {p : Char → Bool} {cs : List Char} {c : Char} (h : c ∈ trimBy p cs) :
    c ∈ cs := by
  rw [trimBy, List.mem_reverse] at h
  exact (List.dropWhile_sublist p).mem (List.mem_reverse.mp ((List.dropWhile_sublist p).mem h))

end Text

namespace Lead

open Text

/-- The normal form of a normal form is itself. -/
theorem normalEmail_normalEmail (email : String) :
    normalEmail (normalEmail email) = normalEmail email := by
  obtain ⟨hhead, hlast⟩ := ends_trimBy isSpacing email.toList
  have hlower : ∀ c ∈ lowerAfter [] (trimBy isSpacing email.toList), IsLower c := fun c hc =>
    (lowerAfter_settled hc).elim (·.isLower) (·.1)
  simp only [normalEmail, strip, lower, String.toList_ofList]
  rw [trimBy_of_ends (isSpacing_head?_lowerAfter hhead) (isSpacing_getLast?_lowerAfter hlast),
    lowerAfter_of_isLower hlower]

/-- The normal form of a text that can be encoded can be encoded. -/
theorem isWhole_normalEmail {email : String} (h : isWhole email = true) :
    isWhole (normalEmail email) = true := by
  rw [isWhole, List.all_eq_true] at h ⊢
  simp only [normalEmail, strip, lower, String.toList_ofList, Option.isNone_iff_eq_none] at h ⊢
  intro c hc
  rcases lowerAfter_settled hc with hsettled | ⟨-, hmem⟩
  · exact hsettled.half?_eq
  · exact h c (mem_of_mem_trimBy hmem)

end Lead

end Nurture
