import Nurture.Calendar.Stamp
import Nurture.Proofs.ZoneChanges

/-!
  Instants of readings

  A reading of the first pass has an instant at which the zone's clocks show it, unless they skip
  it: then they show a time that is later by what they skip (`readingAt_instantOf`).
  They never show the instant of such a reading in a second pass.

  One day before a reading, in the first pass, is a day before its instant, but for what the clocks
  skipped on that day. `Zone.SkipsHoursOrDay` says that this is no more than hours, or
  the whole day.

  A time that the clocks show an hour or more after another one is later, unless they were put back
  by more than an hour in between (`goesOn_shown`).
-/

namespace Nurture.Calendar.Zone

/-- A change puts clocks forward by less than half a day, or by a day. -/
def SkipsHoursOrDayFrom : Int → List Change → Prop
  | _, [] => True
  | current, c :: rest =>
    (2 * (c.offset - current) < day ∨ c.offset - current = day) ∧ SkipsHoursOrDayFrom c.offset rest

instance decidableSkipsHoursOrDayFrom : (current : Int) → (changes : List Change) →
    Decidable (SkipsHoursOrDayFrom current changes)
  | _, [] => inferInstanceAs (Decidable True)
  | _, c :: rest =>
    have := decidableSkipsHoursOrDayFrom c.offset rest
    inferInstanceAs (Decidable (_ ∧ _))

/-- What the zone's clocks skip is less than half a day, or a whole day. -/
def SkipsHoursOrDay : Zone → Prop
  | regional _ initial changes => SkipsHoursOrDayFrom initial changes
  | _ => True

instance : (z : Zone) → Decidable z.SkipsHoursOrDay
  | utc => inferInstanceAs (Decidable True)
  | fixed _ => inferInstanceAs (Decidable True)
  | regional _ initial changes => inferInstanceAs (Decidable (SkipsHoursOrDayFrom initial changes))

theorem skipsHoursOrDay_of_mem_table : ∀ z ∈ table, z.SkipsHoursOrDay := by decide +kernel

/-! ## The instant of a reading of the first pass -/

section
variable {t current wall : Int} {c : Change} {changes rest : List Change}

theorem RegularFrom.ahead (hreg : RegularFrom current changes)
    (h : ∀ c, changes.head? = some c → t < c.instant) : ∀ c ∈ changes, t < c.instant := by
  cases changes with
  | nil => simp
  | cons c rest =>
    have hc := h c rfl
    rw [List.forall_mem_cons]
    refine ⟨hc, fun next hnext => ?_⟩
    have hapart := hreg.2.2.2.1 next hnext
    have hday := day_eq
    omega

/-- Past a change, the clocks do not repeat anything if the changes further on repeat nothing, or
are ahead and the clocks are past all that they showed before the change. -/
theorem repeats_of_past (hle : c.instant ≤ t) (hrest : repeats t c.offset rest = false)
    (hlast : (∀ next, rest.head? = some next → t < next.instant) →
      current - c.offset ≤ t - c.instant) : repeats t current (c :: rest) = false := by
  unfold repeats
  rw [if_pos hle]
  cases rest with
  | nil =>
    have hlate := hlast (by simp)
    exact decide_eq_false (by omega)
  | cons next others =>
    dsimp only
    by_cases hnext : next.instant ≤ t
    · rw [if_pos hnext]
      exact hrest
    · rw [if_neg hnext]
      have hlate := hlast (by simpa using hnext)
      exact decide_eq_false (by omega)

theorem offsetOfReading_cons (wall : Int) : offsetOfReading ⟨wall, false⟩ current (c :: rest)
    = if c.instant + max current c.offset ≤ wall then offsetOfReading ⟨wall, false⟩ c.offset rest
      else current :=
  rfl

/-- The clocks do not show the instant of a reading of the first pass in a second one, and what they
show then is the reading, or later by what they skip. -/
theorem shown_at_first_pass (hreg : RegularFrom current changes)
    (ht : t = wall - offsetOfReading ⟨wall, false⟩ current changes) :
    repeats t current changes = false ∧ wall ≤ t + offsetAfter t current changes ∧
      t + offsetAfter t current changes ≤ wall + day := by
  induction changes generalizing current with
  | nil =>
    rw [offsetOfReading] at ht
    rw [offsetAfter, repeats]
    have hday := day_eq
    exact ⟨rfl, by omega, by omega⟩
  | cons c rest ih =>
    obtain ⟨hcurrent, hchange, -, hapart, hrest⟩ := hreg
    have hoffset := hrest.offset_lt
    have hday := day_eq
    by_cases hpast : c.instant + max current c.offset ≤ wall
    · -- the reading is past the change, and so is its instant
      rw [offsetOfReading_cons, if_pos hpast] at ht
      obtain ⟨hrepeats, hle, hlt⟩ := ih hrest ht
      have hnow : c.instant ≤ t := by
        refine Int.not_lt.mp fun hbefore => ?_
        have hahead : ∀ next ∈ rest, t < next.instant := by
          intro next hnext
          have := hapart next hnext
          omega
        rw [offsetAfter_of_ahead hahead] at hle
        omega
      rw [offsetAfter, if_pos hnow]
      refine ⟨repeats_of_past hnow hrepeats fun hhead => ?_, hle, hlt⟩
      rw [offsetAfter_of_ahead (hrest.ahead hhead)] at hle
      omega
    · -- the reading is before the change, so the distance is the one before it
      rw [offsetOfReading_cons, if_neg hpast] at ht
      by_cases hnow : c.instant ≤ t
      · -- the clocks skip the reading
        have hahead : ∀ next ∈ rest, t < next.instant := by
          intro next hnext
          have := hapart next hnext
          omega
        rw [offsetAfter, if_pos hnow, offsetAfter_of_ahead hahead]
        refine ⟨repeats_of_past hnow (repeats_of_ahead hahead) fun _ => ?_, ?_, ?_⟩ <;> omega
      · have hahead : ∀ next ∈ c :: rest, t < next.instant := by
          rw [List.forall_mem_cons]
          refine ⟨by omega, fun next hnext => ?_⟩
          have := hapart next hnext
          omega
        rw [offsetAfter_of_ahead hahead, repeats_of_ahead hahead]
        exact ⟨rfl, by omega, by omega⟩

/-- From one day to the next, the distance that belongs to a reading of the first pass grows by less
than half a day, or by a whole one. -/
theorem offsetOfReading_day (wall : Int) (hreg : RegularFrom current changes)
    (hskips : SkipsHoursOrDayFrom current changes) :
    2 * (offsetOfReading ⟨wall + day, false⟩ current changes
        - offsetOfReading ⟨wall, false⟩ current changes) < day ∨
      offsetOfReading ⟨wall + day, false⟩ current changes
        - offsetOfReading ⟨wall, false⟩ current changes = day := by
  -- Changes are days apart, so at most one of them lies between the two readings.
  have hday := day_eq
  induction changes generalizing current with
  | nil =>
    rw [offsetOfReading, offsetOfReading]
    omega
  | cons c rest ih =>
    obtain ⟨hskip, hskips⟩ := hskips
    obtain ⟨hcurrent, hchange, -, hapart, hrest⟩ := hreg
    have hoffset := hrest.offset_lt
    by_cases hpast : c.instant + max current c.offset ≤ wall
    · rw [offsetOfReading_cons, if_pos (by omega), offsetOfReading_cons, if_pos hpast]
      exact ih hrest hskips
    · rw [offsetOfReading_cons, offsetOfReading_cons wall, if_neg hpast]
      by_cases hnext : c.instant + max current c.offset ≤ wall + day
      · -- the change comes in between, and no other does
        have hahead : ∀ next ∈ rest, (⟨wall + day, false⟩ : Reading).wall + day < next.instant := by
          intro next hnext
          have := hapart next hnext
          dsimp only
          omega
        rw [if_pos hnext, offsetOfReading_of_ahead hrest hahead]
        exact hskip
      · rw [if_neg hnext]
        omega

end

theorem readingAt_instantOf {z : Zone} (hz : z.Regular) (wall : Int) :
    ∃ skipped, 0 ≤ skipped ∧ skipped ≤ day ∧
      z.readingAt (z.instantOf ⟨wall, false⟩) = ⟨wall + skipped, false⟩ := by
  have hday := day_eq
  cases z with
  | utc =>
    refine ⟨0, by omega, by omega, ?_⟩
    simp [readingAt, instantOf, offsetAt, offsetOf]
  | fixed offset =>
    refine ⟨0, by omega, by omega, ?_⟩
    simp [readingAt, instantOf, offsetAt, offsetOf]
  | regional key initial changes =>
    obtain ⟨t, ht⟩ : ∃ t, t = wall - offsetOfReading ⟨wall, false⟩ initial changes := ⟨_, rfl⟩
    obtain ⟨hrepeats, hle, hlt⟩ := shown_at_first_pass hz ht
    refine ⟨t + offsetAfter t initial changes - wall, by omega, by omega, ?_⟩
    have hinstant : (regional key initial changes).instantOf ⟨wall, false⟩ = t := ht.symm
    have hwall : t + offsetAfter t initial changes
        = wall + (t + offsetAfter t initial changes - wall) := by omega
    rw [hinstant, ← hwall, ← hrepeats]
    rfl

/-- While the clocks are in a second pass, a reading of that pass within a day, if it is shown when
the second pass is over, has the same instant in the first. -/
theorem instantOf_again {z : Zone} (hz : z.Regular) {t wall : Int}
    (hagain : (z.readingAt t).again = true) (hle : (z.readingAt t).wall ≤ wall)
    (hlt : wall < (z.readingAt t).wall + day)
    (hpast : (z.readingAt (z.instantOf ⟨wall, true⟩)).again = false) :
    z.instantOf ⟨wall, true⟩ = z.instantOf ⟨wall, false⟩ := by
  cases z with
  | utc => cases hagain
  | fixed offset => cases hagain
  | regional key initial changes =>
    have hday := day_eq
    have hrepeats : repeats t initial changes = true := hagain
    rcases ahead_or_lastChange_until t hz with hahead | ⟨prev, c, rest, hnow, hahead, hlast⟩
    · rw [repeats_of_ahead hahead] at hrepeats
      cases hrepeats
    · have h := hlast t hnow hahead
      obtain ⟨hprev, hchange, -, hapart, hrest⟩ := h.regular
      have hoffset := hrest.offset_lt
      rw [h.repeats_eq, decide_eq_true_eq] at hrepeats
      change t + offsetAfter t initial changes ≤ wall at hle
      change wall < t + offsetAfter t initial changes + day at hlt
      rw [h.offsetAfter_eq] at hle hlt
      -- The next change is days ahead, so that the distance is the one after the last.
      have hfar : ∀ again, ∀ next ∈ rest, (⟨wall, again⟩ : Reading).wall + day < next.instant := by
        intro again next hnext
        have := hapart next hnext
        dsimp only
        omega
      have hsecond : offsetOfReading ⟨wall, true⟩ initial changes = c.offset := by
        rw [h.offsetOfReading_eq _ (by dsimp only; omega), offsetOfReading, if_pos,
          offsetOfReading_of_ahead hrest (hfar true)]
        rw [if_pos rfl]
        dsimp only
        omega
      have hinstant : (regional key initial changes).instantOf ⟨wall, true⟩ = wall - c.offset := by
        rw [instantOf, offsetOf, hsecond]
      have hw := hlast (wall - c.offset) (by omega) fun next hnext => by
        have := hapart next hnext
        omega
      rw [hinstant] at hpast ⊢
      have hpast : repeats (wall - c.offset) initial changes = false := hpast
      rw [hw.repeats_eq, decide_eq_false_iff_not] at hpast
      have hfirst : offsetOfReading ⟨wall, false⟩ initial changes = c.offset := by
        rw [h.offsetOfReading_eq _ (by dsimp only; omega), offsetOfReading_cons, if_pos (by omega),
          offsetOfReading_of_ahead hrest (hfar false)]
      rw [instantOf, offsetOf, hfirst]

theorem instantOf_day {z : Zone} (hz : z.Regular) (hskips : z.SkipsHoursOrDay) (wall : Int) :
    day < 2 * (z.instantOf ⟨wall + day, false⟩ - z.instantOf ⟨wall, false⟩) ∨
      z.instantOf ⟨wall + day, false⟩ = z.instantOf ⟨wall, false⟩ := by
  have hday := day_eq
  cases z with
  | utc =>
    left
    show day < 2 * (wall + day - 0 - (wall - 0))
    omega
  | fixed offset =>
    left
    show day < 2 * (wall + day - offset - (wall - offset))
    omega
  | regional key initial changes =>
    have h := offsetOfReading_day wall hz hskips
    show day < 2 * (wall + day - offsetOfReading ⟨wall + day, false⟩ initial changes
        - (wall - offsetOfReading ⟨wall, false⟩ initial changes)) ∨
      wall + day - offsetOfReading ⟨wall + day, false⟩ initial changes
        = wall - offsetOfReading ⟨wall, false⟩ initial changes
    omega

/-! ## Later times on a zone's clocks -/

/-- No change puts clocks back by more than an hour. -/
def PutsBackAnHourFrom : Int → List Change → Prop
  | _, [] => True
  | current, c :: rest => current - c.offset ≤ hour ∧ PutsBackAnHourFrom c.offset rest

instance decidablePutsBackAnHourFrom : (current : Int) → (changes : List Change) →
    Decidable (PutsBackAnHourFrom current changes)
  | _, [] => inferInstanceAs (Decidable True)
  | _, c :: rest =>
    have := decidablePutsBackAnHourFrom c.offset rest
    inferInstanceAs (Decidable (_ ∧ _))

/-- The zone's clocks are never put back by more than an hour. -/
def PutsBackAnHour : Zone → Prop
  | regional _ initial changes => PutsBackAnHourFrom initial changes
  | _ => True

instance : (z : Zone) → Decidable z.PutsBackAnHour
  | utc => inferInstanceAs (Decidable True)
  | fixed _ => inferInstanceAs (Decidable True)
  | regional _ initial changes => inferInstanceAs (Decidable (PutsBackAnHourFrom initial changes))

section
variable {t current wall span : Int} {changes : List Change}

theorem RegularFrom.offsetAfter_lt (hreg : RegularFrom current changes) (t : Int) :
    -day < offsetAfter t current changes ∧ offsetAfter t current changes < day := by
  induction changes generalizing current with
  | nil => exact hreg
  | cons c rest ih =>
    rw [offsetAfter]
    split
    · exact ih hreg.2.2.2.2
    · exact hreg.1

theorem le_first_pass (hreg : RegularFrom current changes) (hle : t + current ≤ wall)
    (hahead : ∀ c ∈ changes, t ≤ c.instant) :
    t ≤ wall - offsetOfReading ⟨wall, false⟩ current changes := by
  induction changes generalizing current t with
  | nil =>
    rw [offsetOfReading]
    omega
  | cons c rest ih =>
    have hc := hahead c List.mem_cons_self
    have hday := day_eq
    rw [offsetOfReading_cons]
    split
    · have hlater := ih hreg.2.2.2.2 (t := c.instant) (by omega) fun next hnext => by
        have := hreg.2.2.2.1 next hnext
        omega
      omega
    · omega

/-- What the clocks show an hour or more after they showed an instant, they show later. -/
theorem lt_first_pass (hreg : RegularFrom current changes)
    (hback : PutsBackAnHourFrom current changes) (hspan : hour ≤ span) :
    t < t + offsetAfter t current changes + span
      - offsetOfReading ⟨t + offsetAfter t current changes + span, false⟩ current changes := by
  have hhour : 0 < hour := by decide
  induction changes generalizing current with
  | nil =>
    rw [offsetAfter, offsetOfReading]
    omega
  | cons c rest ih =>
    have hday := day_eq
    have hcurrent := hreg.1
    have hrest := hreg.2.2.2.2
    have hoffset := hrest.offset_lt
    by_cases hpast : c.instant ≤ t
    · -- by now the clocks have been put back at most an hour, or days have gone by
      have hshown : c.instant + max current c.offset ≤ t + offsetAfter t c.offset rest + span := by
        by_cases hahead : ∀ next ∈ rest, t < next.instant
        · have hhourBack := hback.1
          rw [offsetAfter_of_ahead hahead]
          omega
        · obtain ⟨next, hnext, hnow⟩ : ∃ next ∈ rest, next.instant ≤ t := by simpa using hahead
          have hapart := hreg.2.2.2.1 next hnext
          have hafter := hrest.offsetAfter_lt t
          omega
      rw [offsetAfter, if_pos hpast, offsetOfReading_cons, if_pos hshown]
      exact ih hrest hback.2
    · -- the sum is read before the change, or after all that the clocks showed before it
      have hahead : ∀ next ∈ rest, c.instant ≤ next.instant := by
        intro next hnext
        have := hreg.2.2.2.1 next hnext
        omega
      rw [offsetAfter, if_neg hpast, offsetOfReading_cons]
      split
      · have hlater : c.instant
            ≤ t + current + span - offsetOfReading ⟨t + current + span, false⟩ c.offset rest :=
          le_first_pass hrest (by omega) hahead
        omega
      · omega

end

/-- On the clocks of a zone that are never put back by more than an hour, times go on. -/
theorem goesOn_shown {z : Zone} (hz : z.Regular) (hback : z.PutsBackAnHour) (t : Int) :
    (Stamp.shown z t).GoesOn := by
  intro span sum hspan hsum
  have hhour : 0 < hour := by decide
  rw [Stamp.eq_plus_of_add hsum, Stamp.instant_shown]
  cases z with
  | utc =>
    show t < t + 0 + span - 0
    omega
  | fixed offset =>
    show t < t + offset + span - offset
    omega
  | regional key initial changes => exact lt_first_pass hz hback hspan

end Nurture.Calendar.Zone
