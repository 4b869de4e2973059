import Mathlib.Order.Bounds.Defs
import Nurture.Proofs.ConstantZones
import Nurture.Proofs.Rounding
import Nurture.Proofs.SendTimes
import Nurture.Proofs.SendWindows

/-!
  Occurrences of a send time

  In a constant zone a send time that passed the check occurs once a day, exactly a day apart. The
  search from now on finds the first occurrence that is not over (`next_isLeast`), on whatever dates
  the zone and UTC are. The search around a time tries the occurrences of three dates, and that is
  enough (`parked_isSome_iff`): the occurrence on the date of the time is less than a day away, and
  every occurrence that is on none of the three dates is further away than that one.
-/

namespace Nurture.SendWindow

open Calendar

/-- The zone's clocks show the hours and minutes of the send time, and nothing beyond. -/
def Occurs (sendTime : String) (z : Zone) (t : Int) : Prop :=
  ∃ hours minutes, SendTime.Writes sendTime hours minutes ∧
    (z.readingAt t).wall % day = hours * hour + minutes * minute

variable {sendTime : String} {now scheduled : Stamp} {z : Zone} {timeOfDay offset : Int}

/-! ## The time of day -/

theorem exists_timeOfDay (h : SendTime.accepts sendTime = true) (z : Zone) :
    ∃ timeOfDay, (0 ≤ timeOfDay ∧ timeOfDay < day) ∧ ReadsAs sendTime z timeOfDay ∧
      ∀ t, Occurs sendTime z t ↔ (z.readingAt t).wall % day = timeOfDay := by
  obtain ⟨hours, minutes, hwrites, hhours, hminutes⟩ := SendTime.writes_of_accepts h
  have hhours' : (0 : Int) ≤ hours ∧ (hours : Int) ≤ 23 := by omega
  have hminutes' : (0 : Int) ≤ minutes ∧ (minutes : Int) ≤ 59 := by omega
  refine ⟨hours * hour + minutes * minute, timeOfDay_mem hhours' hminutes',
    readsAs_of_read (SendTime.read_of_writes hwrites) hhours' hminutes', fun t => ⟨?_, ?_⟩⟩
  · rintro ⟨hours', minutes', hwrites', hshown⟩
    obtain ⟨rfl, rfl⟩ := SendTime.writes_unique hwrites hwrites'
    exact hshown
  · intro hshown
    exact ⟨hours, minutes, hwrites, hshown⟩

/-- On which clock a time is given does not matter, unless the day before it does not exist. -/
theorem sameDay_eq_of_instant (h : day ≤ now.instant) :
    sameDay sendTime now z = sameDay sendTime (.ahead now.instant 0) z := by
  have hnow : momentOf now = .ok now.toMoment := by
    unfold momentOf
    split
    · rename_i hlocal
      rw [Bool.and_eq_true, decide_eq_true_iff, Stamp.isLocal, Option.isNone_iff_eq_none] at hlocal
      have hinstant : now.instant = now.wall := by
        rw [Stamp.instant, hlocal.1, Option.getD_none, Int.sub_zero]
      omega
    · rfl
  have hinstant : (Stamp.toMoment (.ahead now.instant 0)).instant = now.toMoment.instant :=
    Int.sub_zero now.instant
  have hshown : z.localReading (Stamp.toMoment (.ahead now.instant 0))
      = z.localReading now.toMoment := by
    unfold Zone.localReading
    rw [hinstant]
  unfold sameDay
  rw [hnow]
  change _ = (SendTime.read sendTime).mapError Failure.sendTime >>= fun _ =>
    (z.localReading (Stamp.toMoment (.ahead now.instant 0))).mapError Failure.overflow >>= _
  rw [hshown]
  rfl

theorem sameDay_of_withinADay (hz : z.WithinADay) (hreads : ReadsAs sendTime z timeOfDay)
    (hearly : day ≤ now.instant) (hlate : now.instant + day ≤ endOfTime) :
    sameDay sendTime now z = .ok (z.readingAt now.instant, { z.readingAt now.instant with
      wall := midnight (z.readingAt now.instant).wall + timeOfDay }) := by
  have hoffset := hz.offsetAt_lt now.instant
  have hshown : (z.readingAt now.instant).wall = now.instant + z.offsetAt now.instant := rfl
  rw [sameDay_eq_of_instant hearly]
  exact hreads now.instant (inRange_of (by omega) (by omega)) (inRange_of (by omega) (by omega))

theorem sameDay_of_aheadBy (hz : z.AheadBy offset) (hreads : ReadsAs sendTime z timeOfDay)
    (hearly : day ≤ now.instant) (hlate : now.instant + day ≤ endOfTime) :
    sameDay sendTime now z = .ok (⟨now.instant + offset, false⟩,
      ⟨midnight (now.instant + offset) + timeOfDay, false⟩) := by
  rw [sameDay_of_withinADay hz.withinADay hreads hearly hlate, hz.readingAt_eq]

theorem momentOf_of_aheadBy (hz : z.AheadBy offset) {r : Reading} (h : 0 ≤ r.wall - offset)
    (h' : r.wall - offset < endOfTime) :
    z.momentOf r = .ok (Moment.ofInstant (r.wall - offset)) := by
  unfold Zone.momentOf
  rw [hz.instantOf_eq, inRange_of h h']
  rfl

/-! ## The next occurrence -/

theorem next_of_sameDay {r : Reading} {w : Moment}
    (hsame : sameDay sendTime now z
      = .ok (r, { r with wall := midnight r.wall + timeOfDay }))
    (hfirst : 0 ≤ (target r timeOfDay).wall) (hlast : (target r timeOfDay).wall < endOfTime)
    (hmoment : z.momentOf (target r timeOfDay) = .ok w) : next sendTime now z = .ok w := by
  unfold next
  refine bind_eq_ok_iff.mpr ⟨_, hsame, ?_⟩
  dsimp only
  by_cases hpassed : midnight r.wall + timeOfDay < r.wall
  · -- clocks show a later time already, so it is tomorrow's occurrence
    have htarget : target r timeOfDay = ⟨midnight r.wall + timeOfDay + 1 * day, false⟩ :=
      if_pos hpassed
    rw [htarget] at hfirst hlast hmoment
    rw [if_pos hpassed]
    exact bind_eq_ok_iff.mpr ⟨_, daysLater_eq_ok hfirst hlast, mapError_eq_ok_iff.mpr hmoment⟩
  · have htarget : target r timeOfDay = ⟨midnight r.wall + timeOfDay, r.again⟩ := if_neg hpassed
    rw [htarget] at hmoment
    rw [if_neg hpassed]
    exact mapError_eq_ok_iff.mpr hmoment

theorem next_of_aheadBy (hz : z.AheadBy offset) (hreads : ReadsAs sendTime z timeOfDay)
    (hle : 0 ≤ timeOfDay) (hlt : timeOfDay < day) (hearly : day ≤ now.instant)
    (hlate : now.instant + 2 * day ≤ endOfTime) :
    next sendTime now z = .ok
      (Moment.ofInstant ((target ⟨now.instant + offset, false⟩ timeOfDay).wall - offset)) := by
  have hoffset := hz.lt
  have hday := day_eq
  obtain ⟨hwall, hwall', -⟩ := target_cases ⟨now.instant + offset, false⟩ hle hlt
  dsimp only at hwall hwall'
  exact next_of_sameDay (sameDay_of_aheadBy hz hreads hearly (by omega)) (by omega) (by omega)
    (momentOf_of_aheadBy hz (by omega) (by omega))

/-- The search finds the first occurrence, which is less than a day away. -/
theorem exists_next (now : Stamp) (haccepts : SendTime.accepts sendTime = true) (hz : z.WellFormed)
    (hconst : z.IsConstant) (hearly : day ≤ now.instant)
    (hlate : now.instant + 2 * day ≤ endOfTime) :
    ∃ w, next sendTime now z = .ok w ∧ w.offset = 0 ∧
      IsLeast {t | now.instant ≤ t ∧ Occurs sendTime z t} w.instant ∧
      w.instant < now.instant + day := by
  obtain ⟨timeOfDay, ⟨hle, hlt⟩, hreads, hoccurs⟩ := exists_timeOfDay haccepts z
  obtain ⟨offset, hahead⟩ := Zone.exists_aheadBy hz hconst
  obtain ⟨hwall, hwall', -⟩ := target_cases ⟨now.instant + offset, false⟩ hle hlt
  have hshown := midnight_target ⟨now.instant + offset, false⟩ hle hlt
  dsimp only at hwall hwall'
  refine ⟨_, next_of_aheadBy hahead hreads hle hlt hearly hlate, rfl, ?_, ?_⟩
  · rw [Moment.instant_ofInstant]
    generalize (target ⟨now.instant + offset, false⟩ timeOfDay).wall = wall at *
    rw [midnight_eq] at hshown
    rw [day_eq] at *
    constructor
    · refine ⟨by omega, (hoccurs _).mpr ?_⟩
      rw [hahead.readingAt_eq]
      dsimp only
      omega
    · rintro t ⟨ht, hoccurs'⟩
      -- Two occurrences are a whole number of days apart.
      rw [hoccurs, hahead.readingAt_eq] at hoccurs'
      dsimp only at hoccurs'
      omega
  · rw [Moment.instant_ofInstant]
    omega

/-- In a constant zone, the next occurrence of an accepted send time is the least instant from now
on at which the zone's clocks show it. It is less than a day away, it is now exactly if clocks show
the send time now, and from a later time on it is no earlier. -/
theorem next_isLeast (haccepts : SendTime.accepts sendTime = true) (hz : z.WellFormed)
    (hconst : z.IsConstant) (hearly : day ≤ now.instant)
    (hlate : now.instant + 2 * day ≤ endOfTime) :
    ∃ w, next sendTime now z = .ok w ∧ w.offset = 0 ∧
      IsLeast {t | now.instant ≤ t ∧ Occurs sendTime z t} w.instant ∧
      (now.instant ≤ w.instant ∧ w.instant < now.instant + day) ∧
      (w.instant = now.instant ↔ Occurs sendTime z now.instant) ∧
      ∀ later : Stamp, now.instant ≤ later.instant → later.instant + 2 * day ≤ endOfTime →
        ∃ w', next sendTime later z = .ok w' ∧ w.instant ≤ w'.instant := by
  obtain ⟨w, hnext, hutc, hleast, hlt⟩ := exists_next now haccepts hz hconst hearly hlate
  refine ⟨w, hnext, hutc, hleast, ⟨hleast.1.1, hlt⟩, ⟨?_, ?_⟩, ?_⟩
  · intro hnow
    rw [← hnow]
    exact hleast.1.2
  · intro hnow
    exact Int.le_antisymm (hleast.2 ⟨Int.le_refl _, hnow⟩) hleast.1.1
  · intro later hlater hlate'
    obtain ⟨w', hnext', -, hleast', -⟩ :=
      exists_next later haccepts hz hconst (by omega) hlate'
    exact ⟨w', hnext', hleast.2 ⟨Int.le_trans hlater hleast'.1.1, hleast'.1.2⟩⟩

namespace Bogota

/-- Clocks in Bogotá are five hours behind UTC, all the year round. -/
def clocks : Zone := .fixed (-5 * hour)

/-- The first microsecond of 2025 in Bogotá; UTC clocks have shown the new year for five hours. -/
def newYear : Int := Zone.utcInstant 2025 1 1 5 0

theorem clocks_isConstant : clocks.IsConstant := fun _ _ => rfl

/-- A microsecond after midnight, the next midnight is that of the next day. -/
theorem next_after_midnight :
    (SendTime.accepts "00:00" = true ∧ clocks.WellFormed ∧ clocks.IsConstant ∧
      day ≤ (Stamp.ahead (newYear + 1) 0).instant ∧
      (Stamp.ahead (newYear + 1) 0).instant + 2 * day ≤ endOfTime) ∧
    next "00:00" (.ahead (newYear + 1) 0) clocks = .ok (Moment.ofInstant (newYear + day)) ∧
    IsLeast {t | newYear + 1 ≤ t ∧ Occurs "00:00" clocks t} (newYear + day) := by
  have haccepts : SendTime.accepts "00:00" = true := by decide
  have hz : clocks.WellFormed := by decide +kernel
  have hearly : day ≤ (Stamp.ahead (newYear + 1) 0).instant := by decide +kernel
  have hlate : (Stamp.ahead (newYear + 1) 0).instant + 2 * day ≤ endOfTime := by decide +kernel
  obtain ⟨w, hnext, -, hleast, -⟩ := next_isLeast haccepts hz clocks_isConstant hearly hlate
  have hfound : next "00:00" (.ahead (newYear + 1) 0) clocks
      = .ok (Moment.ofInstant (newYear + day)) := by rfl
  obtain rfl := Except.ok.inj (hnext.symm.trans hfound)
  exact ⟨⟨haccepts, hz, clocks_isConstant, hearly, hlate⟩, hfound, hleast⟩

end Bogota

/-! ## The occurrence that a time sits on -/

/-- The moments that are so many days from an instant. -/
def daysFrom (first : Int) (offsets : List Int) : List Moment :=
  offsets.map fun days => Moment.ofInstant (first + days * day)

theorem mem_daysFrom {first : Int} {offsets : List Int} {w : Moment} :
    w ∈ daysFrom first offsets ↔ ∃ days ∈ offsets, Moment.ofInstant (first + days * day) = w :=
  List.mem_map

theorem findWithin_of_aheadBy (hz : z.AheadBy offset) (haware : scheduled.isLocal = false)
    {anchor : Reading} {first : Int} (hanchor : anchor.wall = first + offset) (tolerance : Amount)
    {offsets : List Int} (hearly : ∀ days ∈ offsets, day ≤ first + days * day)
    (hlate : ∀ days ∈ offsets, first + days * day + day ≤ endOfTime) :
    findWithin anchor scheduled z tolerance offsets = .ok ((daysFrom first offsets).find?
      fun w => tolerance.covers (w.instant - scheduled.instant)) := by
  have hlt := hz.lt
  have hday := day_eq
  refine findWithin_eq_find? haware (fun days hdays => ?_) tolerance
  have hfirst := hearly days hdays
  have hlast := hlate days hdays
  have hmoment := momentOf_of_aheadBy hz (r := ⟨anchor.wall + days * day, false⟩)
    (by dsimp only; omega) (by dsimp only; omega)
  have hinstant : anchor.wall + days * day - offset = first + days * day := by omega
  dsimp only at hmoment
  rw [hinstant] at hmoment
  exact ⟨_, daysLater_eq_ok (by omega) (by omega), hmoment⟩

/-- The search around a time begins with the occurrence of its date, which is less than a day
away. -/
theorem parked_of_aheadBy (hz : z.AheadBy offset) (hreads : ReadsAs sendTime z timeOfDay)
    (hle : 0 ≤ timeOfDay) (hlt : timeOfDay < day) (haware : scheduled.isLocal = false)
    (hearly : 3 * day ≤ scheduled.instant) (hlate : scheduled.instant + 3 * day ≤ endOfTime)
    (tolerance : Amount) :
    ∃ first, (-day < first - scheduled.instant ∧ first - scheduled.instant < day) ∧
      (first + offset) % day = timeOfDay ∧
      parked sendTime scheduled z tolerance = .ok ((daysFrom first [-1, 0, 1]).find?
        fun w => tolerance.covers (w.instant - scheduled.instant)) := by
  have hday := day_eq
  obtain ⟨first, hfirst⟩ : ∃ first, midnight (scheduled.instant + offset) + timeOfDay
      = first + offset := ⟨_, (Int.sub_add_cancel _ offset).symm⟩
  have hnear : -day < first - scheduled.instant ∧ first - scheduled.instant < day := by
    rw [midnight_eq] at hfirst
    omega
  have hshown : (first + offset) % day = timeOfDay := by
    rw [midnight_eq] at hfirst
    rw [day_eq] at *
    omega
  have hdates : ∀ days ∈ ([-1, 0, 1] : List Int), -day ≤ days * day ∧ days * day ≤ day := by
    decide
  refine ⟨first, hnear, hshown, bind_eq_ok_iff.mpr
    ⟨_, sameDay_of_aheadBy hz hreads (by omega) (by omega), ?_⟩⟩
  refine findWithin_of_aheadBy hz haware hfirst tolerance (fun days hdays => ?_)
    fun days hdays => ?_
  · have := hdates days hdays
    omega
  · have := hdates days hdays
    omega

/-- The occurrences of three dates are enough: of the instants that are whole days from one less
than a day away, each is on one of the dates or further away than that one. -/
theorem exists_no_further {first scheduled t : Int} (hle : -day < first - scheduled)
    (hlt : first - scheduled < day) (ht : (t - first) % day = 0) :
    ∃ w ∈ daysFrom first [-1, 0, 1], (w.instant - scheduled).natAbs ≤ (t - scheduled).natAbs := by
  obtain ⟨days, hdays, hnear⟩ : ∃ days ∈ ([-1, 0, 1] : List Int),
      (first + days * day - scheduled).natAbs ≤ (t - scheduled).natAbs := by
    rw [day_eq] at *
    -- Two days away from the first one is more than a day away from the time.
    by_cases hbefore : t = first + -1 * 86400000000
    · exact ⟨-1, by decide, by rw [hbefore]⟩
    · by_cases hafter : t = first + 1 * 86400000000
      · exact ⟨1, by decide, by rw [hafter]⟩
      · exact ⟨0, by decide, by omega⟩
  refine ⟨_, mem_daysFrom.mpr ⟨days, hdays, rfl⟩, ?_⟩
  rwa [Moment.instant_ofInstant]

theorem eq_of_covers {tolerance : Amount} (hshort : tolerance.covers (12 * hour) = false)
    {scheduled t u : Int} (htu : (t - u) % day = 0) (ht : tolerance.covers (t - scheduled) = true)
    (hu : tolerance.covers (u - scheduled) = true) : t = u := by
  -- What is within the tolerance is less than half a day away.
  have hfar : ∀ span : Int, tolerance.covers span = true → 2 * (span.natAbs : Int) < day := by
    intro span hspan
    by_contra hlong
    have hhalf : (12 * hour).natAbs ≤ span.natAbs := by
      rw [day_eq] at hlong
      rw [hour, minute, second]
      omega
    rw [Amount.covers_of_le hhalf hspan] at hshort
    cases hshort
  have ht' := hfar _ ht
  have hu' := hfar _ hu
  rw [day_eq] at *
  omega

/-- In a constant zone, the search around a time finds an occurrence of an accepted send time
exactly if there is one within the tolerance. What it finds is one, and the only one if half a day
is not within the tolerance. -/
theorem parked_isSome_iff (haccepts : SendTime.accepts sendTime = true) (hz : z.WellFormed)
    (hconst : z.IsConstant) (haware : scheduled.isLocal = false)
    (hearly : 3 * day ≤ scheduled.instant) (hlate : scheduled.instant + 3 * day ≤ endOfTime)
    (tolerance : Amount) :
    ∃ found, parked sendTime scheduled z tolerance = .ok found ∧
      (found.isSome = true ↔
        ∃ t, Occurs sendTime z t ∧ tolerance.covers (t - scheduled.instant) = true) ∧
      (∀ w ∈ found, w.offset = 0 ∧ Occurs sendTime z w.instant ∧
        tolerance.covers (w.instant - scheduled.instant) = true) ∧
      (tolerance.covers (12 * hour) = false → ∀ w ∈ found, ∀ t, Occurs sendTime z t →
        tolerance.covers (t - scheduled.instant) = true → t = w.instant) := by
  obtain ⟨timeOfDay, ⟨hle, hlt⟩, hreads, hoccurs⟩ := exists_timeOfDay haccepts z
  obtain ⟨offset, hahead⟩ := Zone.exists_aheadBy hz hconst
  obtain ⟨first, ⟨hbefore, hafter⟩, hfirst, hparked⟩ :=
    parked_of_aheadBy hahead hreads hle hlt haware hearly hlate tolerance
  have hwhole : ∀ t, Occurs sendTime z t ↔ (t - first) % day = 0 := by
    intro t
    rw [hoccurs, hahead.readingAt_eq, ← hfirst]
    dsimp only
    rw [day_eq]
    omega
  have hsound : ∀ w ∈ (daysFrom first [-1, 0, 1]).find?
      (fun w => tolerance.covers (w.instant - scheduled.instant)),
      w.offset = 0 ∧ Occurs sendTime z w.instant ∧
        tolerance.covers (w.instant - scheduled.instant) = true := by
    intro w hw
    obtain ⟨days, -, rfl⟩ := mem_daysFrom.mp (List.mem_of_find?_eq_some hw)
    refine ⟨rfl, ?_, by simpa using List.find?_some hw⟩
    rw [Moment.instant_ofInstant, hwhole, day_eq]
    omega
  refine ⟨_, hparked, ⟨fun hsome => ?_, ?_⟩, hsound, ?_⟩
  · obtain ⟨w, hw⟩ := Option.isSome_iff_exists.mp hsome
    obtain ⟨-, hoccurs', hcovers⟩ := hsound w hw
    exact ⟨w.instant, hoccurs', hcovers⟩
  · rintro ⟨t, hoccurs', hcovers⟩
    obtain ⟨w, hmem, hnear⟩ := exists_no_further hbefore hafter ((hwhole t).mp hoccurs')
    rw [List.find?_isSome]
    exact ⟨w, hmem, Amount.covers_of_le hnear hcovers⟩
  · intro hshort w hw t ht hcovers
    obtain ⟨-, hoccurs', hcovers'⟩ := hsound w hw
    have hapart : (t - w.instant) % day = 0 := by
      rw [hwhole] at ht hoccurs'
      rw [day_eq] at *
      omega
    exact eq_of_covers hshort hapart hcovers hcovers'

/-- Twenty seconds before midnight, on the last day of the year, the midnight that is less than a
minute away is the one with which the next year begins. -/
theorem Bogota.parked_before_midnight :
    (SendTime.accepts "00:00" = true ∧ clocks.WellFormed ∧ clocks.IsConstant ∧
      (Stamp.ahead (newYear - 20 * second) 0).isLocal = false ∧
      3 * day ≤ (Stamp.ahead (newYear - 20 * second) 0).instant ∧
      (Stamp.ahead (newYear - 20 * second) 0).instant + 3 * day ≤ endOfTime ∧
      (Amount.whole 60).covers (12 * hour) = false) ∧
    parked "00:00" (.ahead (newYear - 20 * second) 0) clocks (.whole 60)
      = .ok (some (Moment.ofInstant newYear)) ∧
    ∀ t, Occurs "00:00" clocks t →
      (Amount.whole 60).covers (t - (newYear - 20 * second)) = true → t = newYear := by
  have haccepts : SendTime.accepts "00:00" = true := by decide
  have hz : clocks.WellFormed := by decide +kernel
  have hearly : 3 * day ≤ (Stamp.ahead (newYear - 20 * second) 0).instant := by decide +kernel
  have hlate : (Stamp.ahead (newYear - 20 * second) 0).instant + 3 * day ≤ endOfTime := by
    decide +kernel
  have hshort : (Amount.whole 60).covers (12 * hour) = false := by decide
  obtain ⟨found, hparked, -, -, hunique⟩ :=
    parked_isSome_iff haccepts hz clocks_isConstant rfl hearly hlate (.whole 60)
  have hfound : parked "00:00" (.ahead (newYear - 20 * second) 0) clocks (.whole 60)
      = .ok (some (Moment.ofInstant newYear)) := by rfl
  obtain rfl := Except.ok.inj (hparked.symm.trans hfound)
  refine ⟨⟨haccepts, hz, clocks_isConstant, rfl, hearly, hlate, hshort⟩, hfound, ?_⟩
  intro t ht hcovers
  have hscheduled : (Stamp.ahead (newYear - 20 * second) 0).instant = newYear - 20 * second :=
    Int.sub_zero _
  rw [← hscheduled] at hcovers
  exact hunique hshort _ rfl t ht hcovers

end Nurture.SendWindow
