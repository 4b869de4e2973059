import Nurture.Funnel.SendTime

/-!
  Accepted send times

  A send time that has passed the check of node data writes hours and minutes with two digits each,
  and reading it finds them: hours up to 23 and minutes up to 59 (`SendTime.read_of_accepts`). The
  check lets more through than it seems to, digits of other scripts and a line end behind the
  minutes, but reading values such digits as any others and takes no notice of the line end.
-/

namespace Nurture

/-! ## Digits -/

namespace Text

theorem not_isBlank_of_digit {c : Char} {n : Nat} (h : decimalValue? c = some n) :
    isBlank c = false := by
  have hapart : ∀ z ∈ decimalZeros, ∀ r ∈ blankRanges, z + 10 ≤ r.1 ∨ r.2 < z := by decide +kernel
  obtain ⟨z, hfound, -⟩ := Option.map_eq_some_iff.mp h
  have hz : z ≤ c.toNat ∧ c.toNat < z + 10 := by simpa using List.find?_some hfound
  rw [Bool.eq_false_iff]
  intro hblank
  obtain ⟨r, hr, hlow, hhigh⟩ := Ranges.covers_iff.mp hblank
  have := hapart z (List.mem_of_find?_eq_some hfound) r hr
  omega

theorem decimalValue?_between {c : Char} {k : Nat} (hlow : '0' ≤ c) (hhigh : c.toNat ≤ 48 + k)
    (hk : k ≤ 9) : ∃ n, decimalValue? c = some n ∧ n ≤ k := by
  have hzero : 48 ≤ c.toNat := UInt32.le_iff_toNat_le.mp hlow
  have hdigit : c.isDigit = true := by
    rw [Char.isDigit, Bool.and_eq_true, decide_eq_true_eq, decide_eq_true_eq]
    refine ⟨hlow, UInt32.le_iff_toNat_le.mpr ?_⟩
    show c.toNat ≤ 57
    omega
  exact ⟨c.toNat - 48, decimalValue?_ascii hdigit, by omega⟩

end Text

namespace Numeral

/-- Two digits, perhaps with white space behind them, are read as the number that they write. -/
theorem readInteger_of_digits {a b : Char} {m n : Nat} {rest : List Char}
    (ha : Text.decimalValue? a = some m) (hb : Text.decimalValue? b = some n)
    (hrest : ∀ c ∈ rest, Text.isBlank c = true) :
    readInteger (String.ofList (a :: b :: rest)) = .ok ((10 * m + n : Nat) : Int) := by
  have hsign : ∀ c, Text.decimalValue? c = none → a ≠ c := by
    rintro c hc rfl
    rw [hc] at ha
    cases ha
  have hunderscore : b ≠ '_' := by
    rintro rfl
    cases hb
  have htrim : Text.trimBy Text.isBlank (a :: b :: rest) = [a, b] :=
    Text.trimBy_of_trailing [] (Text.not_isBlank_of_digit ha) (Text.not_isBlank_of_digit hb) hrest
  have hsplit : splitSign [a, b] = (false, [a, b]) := by
    unfold splitSign
    split
    · rename_i hplus
      exact absurd (List.cons.inj hplus).1 (hsign '+' (by decide))
    · rename_i hminus
      exact absurd (List.cons.inj hminus).1 (hsign '-' (by decide))
    · rfl
  have hrun : digitRun Text.decimalValue? [a, b] = some ([m, n], []) := by
    simp only [digitRun, ha, hb, if_neg hunderscore, Option.isSome_some, if_true, Option.map_some]
  unfold readInteger
  rw [String.toList_ofList, htrim, hsplit]
  dsimp only
  rw [hrun]
  show Except.ok (((10 * (10 * 0 + m) + n : Nat)) : Int) = _
  rw [Nat.mul_zero, Nat.zero_add]

end Numeral

/-! ## Send times -/

namespace SendTime

/-- The text writes hours and minutes with two digits each and a colon between them. What may
follow is white space. -/
def Writes (s : String) (hours minutes : Nat) : Prop :=
  ∃ a b c d rest h₁ h₂ m₁ m₂, s.toList = a :: b :: ':' :: c :: d :: rest ∧
    (∀ x ∈ rest, Text.isBlank x = true) ∧
    Text.decimalValue? a = some h₁ ∧ Text.decimalValue? b = some h₂ ∧
    Text.decimalValue? c = some m₁ ∧ Text.decimalValue? d = some m₂ ∧
    hours = 10 * h₁ + h₂ ∧ minutes = 10 * m₁ + m₂

/-- What is written is what is read. -/
theorem read_of_writes {s : String} {hours minutes : Nat} (h : Writes s hours minutes) :
    read s = .ok ((hours : Int), (minutes : Int)) := by
  obtain ⟨a, b, c, d, rest, h₁, h₂, m₁, m₂, hs, hrest, ha, hb, hc, hd, rfl, rfl⟩ := h
  have hcolon : ∀ x n, Text.decimalValue? x = some n → ':' ≠ x := by
    rintro x n hx rfl
    cases hx
  have hfront : ':' ∉ [a, b] := by
    simp only [List.mem_cons, List.not_mem_nil, or_false, not_or]
    exact ⟨hcolon a h₁ ha, hcolon b h₂ hb⟩
  have hback : ':' ∉ c :: d :: rest := by
    simp only [List.mem_cons, not_or]
    refine ⟨hcolon c m₁ hc, hcolon d m₂ hd, fun hmem => ?_⟩
    exact absurd (hrest ':' hmem) (by decide)
  have hparts : Text.splitAt ':' s.toList = [[a, b], c :: d :: rest] := by
    rw [hs]
    show Text.splitAt ':' ([a, b] ++ ':' :: (c :: d :: rest)) = _
    rw [Text.splitAt_append _ hfront, Text.splitAt_of_notMem hback]
  have hhours : readPart [a, b] = .ok ((10 * h₁ + h₂ : Nat) : Int) := by
    unfold readPart
    dsimp only
    rw [Numeral.readInteger_of_digits ha hb (by simp)]
  have hminutes : readPart (c :: d :: rest) = .ok ((10 * m₁ + m₂ : Nat) : Int) := by
    unfold readPart
    dsimp only
    rw [Numeral.readInteger_of_digits hc hd hrest]
  unfold read
  rw [hparts]
  dsimp only
  rw [hhours, hminutes]
  rfl

theorem writes_unique {s : String} {hours minutes hours' minutes' : Nat}
    (h : Writes s hours minutes) (h' : Writes s hours' minutes') :
    hours = hours' ∧ minutes = minutes' := by
  have heq := (read_of_writes h).symm.trans (read_of_writes h')
  rw [Except.ok.injEq, Prod.mk.injEq] at heq
  omega

theorem hours_of_accepts {a b : Char} (h : acceptsHours a b = true) :
    ∃ h₁ h₂, Text.decimalValue? a = some h₁ ∧ Text.decimalValue? b = some h₂ ∧
      10 * h₁ + h₂ ≤ 23 := by
  simp only [acceptsHours, Bool.or_eq_true, Bool.and_eq_true, decide_eq_true_eq] at h
  rcases h with ⟨ha, hb⟩ | ⟨⟨rfl, hlow⟩, hhigh⟩
  · obtain ⟨n, hn⟩ := Option.isSome_iff_exists.mp hb
    have hlt := Text.decimalValue?_lt hn
    rcases ha with rfl | rfl
    · exact ⟨0, n, rfl, hn, by omega⟩
    · exact ⟨1, n, rfl, hn, by omega⟩
  · have hle : b.toNat ≤ 48 + 3 := UInt32.le_iff_toNat_le.mp hhigh
    obtain ⟨n, hn, hn'⟩ := Text.decimalValue?_between hlow hle (by omega)
    exact ⟨2, n, rfl, hn, by omega⟩

theorem minutes_of_accepts {c d : Char} (h : acceptsMinutes c d = true) :
    ∃ m₁ m₂, Text.decimalValue? c = some m₁ ∧ Text.decimalValue? d = some m₂ ∧
      10 * m₁ + m₂ ≤ 59 := by
  simp only [acceptsMinutes, Bool.and_eq_true, decide_eq_true_eq] at h
  obtain ⟨⟨hlow, hhigh⟩, hd⟩ := h
  have hle : c.toNat ≤ 48 + 5 := UInt32.le_iff_toNat_le.mp hhigh
  obtain ⟨m, hm, hm'⟩ := Text.decimalValue?_between hlow hle (by omega)
  obtain ⟨n, hn⟩ := Option.isSome_iff_exists.mp hd
  have hlt := Text.decimalValue?_lt hn
  exact ⟨m, n, hm, hn, by omega⟩

/-- An accepted text writes a time of day. -/
theorem writes_of_accepts {s : String} (h : accepts s = true) :
    ∃ hours minutes, Writes s hours minutes ∧ hours ≤ 23 ∧ minutes ≤ 59 := by
  unfold accepts at h
  split at h
  · rename_i a b c d rest hs
    simp only [Bool.and_eq_true, Bool.or_eq_true, decide_eq_true_eq] at h
    obtain ⟨⟨hhours, hminutes⟩, hrest⟩ := h
    obtain ⟨h₁, h₂, ha, hb, hle⟩ := hours_of_accepts hhours
    obtain ⟨m₁, m₂, hc, hd, hle'⟩ := minutes_of_accepts hminutes
    have hblank : ∀ x ∈ rest, Text.isBlank x = true := by
      rcases hrest with rfl | rfl
      · simp
      · rw [List.forall_mem_singleton]
        decide
    exact ⟨_, _, ⟨a, b, c, d, rest, h₁, h₂, m₁, m₂, hs, hblank, ha, hb, hc, hd, rfl, rfl⟩, hle,
      hle'⟩
  · cases h

/-- Digits of any script may follow the first ones, and a line end the last. -/
example : accepts "1\u0669:05\n" = true ∧ read "1\u0669:05\n" = .ok (19, 5) :=
  ⟨by decide, by rfl⟩

end SendTime

end Nurture
