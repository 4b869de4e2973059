import Nurture.Calendar.ZoneTable

/-!
  Changes of clocks

  What wall clocks show near an instant depends on one change only, the last one
  before it, provided that changes are some days apart and none is of more than a
  day (`Zone.Regular`, which holds of the zones of the table). `LastChange` names
  that change and reduces the scans of the whole table to it.

  `Zone.KeepsDates` says that clocks that are put back never show an earlier date again.
-/

namespace Nurture.Calendar

theorem day_eq : day = 86400000000 := rfl

namespace Zone

/-- Distances from UTC are of less than a day, changes are of a day at most and three days
apart, within the years that clocks can show. -/
def RegularFrom : Int → List Change → Prop
  | current, [] => -day < current ∧ current < day
  | current, c :: rest =>
    (-day < current ∧ current < day) ∧ (c.offset - current ≤ day ∧ current - c.offset ≤ day) ∧
      (4 * day ≤ c.instant ∧ c.instant + 4 * day ≤ endOfTime) ∧
      (∀ next ∈ rest, c.instant + 3 * day ≤ next.instant) ∧ RegularFrom c.offset rest

/-- A change never makes clocks show a date before the last one that they showed. -/
def KeepsDatesFrom : Int → List Change → Prop
  | _, [] => True
  | current, c :: rest =>
    (c.instant + current - 1) / day ≤ (c.instant + c.offset) / day ∧ KeepsDatesFrom c.offset rest

instance decidableRegularFrom : (current : Int) → (changes : List Change) →
    Decidable (RegularFrom current changes)
  | current, [] => inferInstanceAs (Decidable (-day < current ∧ current < day))
  | _, c :: rest =>
    have := decidableRegularFrom c.offset rest
    inferInstanceAs (Decidable (_ ∧ _ ∧ _ ∧ _ ∧ _))

instance decidableKeepsDatesFrom : (current : Int) → (changes : List Change) →
    Decidable (KeepsDatesFrom current changes)
  | _, [] => inferInstanceAs (Decidable True)
  | _, c :: rest =>
    have := decidableKeepsDatesFrom c.offset rest
    inferInstanceAs (Decidable (_ ∧ _))

/-- The zone's clocks change rarely and by little. -/
def Regular : Zone → Prop
  | utc => True
  | fixed offset => -day < offset ∧ offset < day
  | regional _ initial changes => RegularFrom initial changes

/-- The zone's clocks never show a date again that they had left. -/
def KeepsDates : Zone → Prop
  | regional _ initial changes => KeepsDatesFrom initial changes
  | _ => True

instance : (z : Zone) → Decidable z.Regular
  | utc => inferInstanceAs (Decidable True)
  | fixed offset => inferInstanceAs (Decidable (-day < offset ∧ offset < day))
  | regional _ initial changes => inferInstanceAs (Decidable (RegularFrom initial changes))

instance : (z : Zone) → Decidable z.KeepsDates
  | utc => inferInstanceAs (Decidable True)
  | fixed _ => inferInstanceAs (Decidable True)
  | regional _ initial changes => inferInstanceAs (Decidable (KeepsDatesFrom initial changes))

theorem regular_of_mem_table : ∀ z ∈ table, z.Regular := by decide +kernel

/-- In the table, the clocks of St John's alone were put back to the day before. -/
theorem keepsDates_of_mem_table :
    ∀ z ∈ table, z.KeepsDates ↔ z.label ≠ "America/St_Johns" := by decide +kernel

/-! ## The last change before an instant -/

section
variable {t current prev : Int} {c : Change} {changes rest : List Change} {r : Reading}

theorem RegularFrom.offset_lt (h : RegularFrom current changes) :
    -day < current ∧ current < day := by
  cases changes with
  | nil => exact h
  | cons c rest => exact h.1

theorem offsetAfter_of_ahead (h : ∀ c ∈ changes, t < c.instant) :
    offsetAfter t current changes = current := by
  cases changes with
  | nil => rfl
  | cons c rest =>
    have hc := h c List.mem_cons_self
    rw [offsetAfter, if_neg (by omega)]

theorem repeats_of_ahead (h : ∀ c ∈ changes, t < c.instant) :
    repeats t current changes = false := by
  cases changes with
  | nil => rfl
  | cons c rest =>
    have hc := h c List.mem_cons_self
    unfold repeats
    rw [if_neg (by omega)]

theorem offsetOfReading_of_ahead (hreg : RegularFrom current changes)
    (h : ∀ c ∈ changes, r.wall + day < c.instant) :
    offsetOfReading r current changes = current := by
  cases changes with
  | nil => rfl
  | cons c rest =>
    have hc := h c List.mem_cons_self
    have hcurrent := hreg.offset_lt
    have hoffset := hreg.2.2.2.2.offset_lt
    rw [offsetOfReading, if_neg]
    split <;> omega

theorem offsetOfReading_of_past (hreg : RegularFrom current (c :: rest))
    (h : c.instant + day ≤ r.wall) :
    offsetOfReading r current (c :: rest) = offsetOfReading r c.offset rest := by
  have hcurrent := hreg.offset_lt
  have hoffset := hreg.2.2.2.2.offset_lt
  rw [offsetOfReading, if_pos]
  split <;> omega

/-- The last change before an instant, what was in force before it, and the changes after it. What
the scans of all changes come to is what this one alone says. -/
structure LastChange (t current : Int) (changes : List Change) (prev : Int) (c : Change)
    (rest : List Change) : Prop where
  mem : c ∈ changes
  le : c.instant ≤ t
  ahead : ∀ next ∈ rest, t < next.instant
  regular : RegularFrom prev (c :: rest)
  offsetAfter_eq : offsetAfter t current changes = c.offset
  repeats_eq : repeats t current changes = decide (t - c.instant < prev - c.offset)
  offsetOfReading_eq : ∀ r : Reading, t - day ≤ r.wall →
    offsetOfReading r current changes = offsetOfReading r prev (c :: rest)
  keepsDates : KeepsDatesFrom current changes → KeepsDatesFrom prev (c :: rest)

namespace LastChange

theorem head (hreg : RegularFrom current (c :: rest)) (hle : c.instant ≤ t)
    (hahead : ∀ next ∈ rest, t < next.instant) :
    LastChange t current (c :: rest) current c rest where
  mem := List.mem_cons_self
  le := hle
  ahead := hahead
  regular := hreg
  offsetAfter_eq := by rw [offsetAfter, if_pos hle, offsetAfter_of_ahead hahead]
  repeats_eq := by
    unfold repeats
    rw [if_pos hle]
    cases rest with
    | nil => rfl
    | cons next rest =>
      have hnext := hahead next List.mem_cons_self
      dsimp only
      rw [if_neg (by omega)]
  offsetOfReading_eq _ _ := rfl
  keepsDates := id

theorem cons {first : Change} {others : List Change} (hreg : RegularFrom current (first :: others))
    (h : LastChange t first.offset others prev c rest) :
    LastChange t current (first :: others) prev c rest := by
  -- The first change is days ago, so every scan goes past it.
  have hapart : first.instant + 3 * day ≤ c.instant := hreg.2.2.2.1 c h.mem
  have hle := h.le
  have hday := day_eq
  have hpast : first.instant ≤ t := by omega
  refine ⟨List.mem_cons_of_mem first h.mem, hle, h.ahead, h.regular, ?_, ?_, ?_, ?_⟩
  · rw [offsetAfter, if_pos hpast, h.offsetAfter_eq]
  · cases others with
    | nil => exact absurd h.mem List.not_mem_nil
    | cons next others =>
      have hnext : next.instant ≤ t := by
        rcases List.mem_cons.mp h.mem with heq | hmem
        · exact heq ▸ hle
        · have := hreg.2.2.2.2.2.2.2.1 c hmem
          omega
      unfold repeats
      rw [if_pos hpast]
      dsimp only
      rw [if_pos hnext, h.repeats_eq]
  · intro r hr
    rw [offsetOfReading_of_past hreg (by omega), h.offsetOfReading_eq r hr]
  · intro hk
    exact h.keepsDates hk.2

end LastChange

/-- Either no change has come yet, or there is a last one, which is the last one until the next one
comes. -/
theorem ahead_or_lastChange_until (t : Int) (hreg : RegularFrom current changes) :
    (∀ c ∈ changes, t < c.instant) ∨
      ∃ prev c rest, c.instant ≤ t ∧ (∀ next ∈ rest, t < next.instant) ∧
        ∀ t', c.instant ≤ t' → (∀ next ∈ rest, t' < next.instant) →
          LastChange t' current changes prev c rest := by
  induction changes generalizing current with
  | nil => exact .inl (by simp)
  | cons first others ih =>
    by_cases hfirst : t < first.instant
    · left
      intro c hc
      rcases List.mem_cons.mp hc with rfl | hc
      · exact hfirst
      · have hapart := hreg.2.2.2.1 c hc
        have hday := day_eq
        omega
    · right
      rcases ih hreg.2.2.2.2 with hahead | ⟨prev, c, rest, hle, hahead, h⟩
      · exact ⟨current, first, others, by omega, hahead, fun t' => .head hreg⟩
      · exact ⟨prev, c, rest, hle, hahead, fun t' hle' hahead' => (h t' hle' hahead').cons hreg⟩

theorem ahead_or_lastChange (t : Int) (hreg : RegularFrom current changes) :
    (∀ c ∈ changes, t < c.instant) ∨ ∃ prev c rest, LastChange t current changes prev c rest := by
  rcases ahead_or_lastChange_until t hreg with hahead | ⟨prev, c, rest, hle, hahead, h⟩
  · exact .inl hahead
  · exact .inr ⟨prev, c, rest, h t hle hahead⟩

/-- Where dates are not kept, a change puts clocks back across midnight, and it is the last one
for three days. -/
theorem exists_midnight_back (hreg : RegularFrom current changes)
    (hk : ¬ KeepsDatesFrom current changes) :
    ∃ prev c rest, (c.instant + c.offset) / day < (c.instant + prev - 1) / day ∧
      RegularFrom prev (c :: rest) ∧
      ∀ t, c.instant ≤ t → t < c.instant + 3 * day →
        LastChange t current changes prev c rest := by
  induction changes generalizing current with
  | nil => exact absurd trivial hk
  | cons first others ih =>
    by_cases hfirst : (first.instant + current - 1) / day ≤ (first.instant + first.offset) / day
    · have hothers : ¬ KeepsDatesFrom first.offset others := fun h => hk ⟨hfirst, h⟩
      obtain ⟨prev, c, rest, hback, hregular, hlast⟩ := ih hreg.2.2.2.2 hothers
      exact ⟨prev, c, rest, hback, hregular, fun t hle hlt => (hlast t hle hlt).cons hreg⟩
    · -- the first change itself puts clocks back
      refine ⟨current, first, others, by omega, hreg, fun t hle hlt => .head hreg hle ?_⟩
      intro next hnext
      have hapart := hreg.2.2.2.1 next hnext
      omega

end

end Zone

end Nurture.Calendar
