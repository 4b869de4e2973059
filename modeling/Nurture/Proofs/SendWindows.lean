import Nurture.Engine.SendWindow
import Nurture.Proofs.ConstantZones
import Nurture.Proofs.Results

/-!
  Send windows that have not passed

  The next occurrence of a send time is never before the time from which on it is
  sought, exactly if the zone's clocks keep dates (`le_next_iff`). Where they are put back across
  midnight, a time after midnight that is looked for from the second pass of the
  evening before is tomorrow's, which is looked for in the first pass: it has
  passed already.
-/

namespace Nurture.SendWindow

open Calendar Zone

/-! ## Readings that are not before an instant -/

section
variable {t prev initial : Int} {changes : List Change} {r : Reading}

theorem le_of_ahead (hreg : RegularFrom prev changes) (hahead : ∀ c ∈ changes, t < c.instant)
    (hle : t + prev ≤ r.wall) (hlt : r.wall < t + prev + day)
    (hagain : r.again = false ∨ ∀ c ∈ changes, t + 2 * day ≤ c.instant) :
    t ≤ r.wall - offsetOfReading r prev changes := by
  have hprev := hreg.offset_lt
  cases changes with
  | nil =>
    rw [offsetOfReading]
    omega
  | cons c rest =>
    have hc := hahead c List.mem_cons_self
    obtain ⟨-, hchange, -, hapart, hrest⟩ := hreg
    have hoffset := hrest.offset_lt
    by_cases hpast : c.instant + (if r.again then min prev c.offset else max prev c.offset) ≤ r.wall
    · -- the reading is past the first change, and past no other
      have hlater : ∀ next ∈ rest, r.wall + day < next.instant := by
        intro next hnext
        have := hapart next hnext
        omega
      rw [offsetOfReading, if_pos hpast, offsetOfReading_of_ahead hrest hlater]
      rcases hagain with hagain | hfar
      · rw [hagain, if_neg Bool.false_ne_true] at hpast
        omega
      · have := hfar c List.mem_cons_self
        split at hpast <;> omega
    · -- the reading is before every change
      rw [offsetOfReading, if_neg hpast]
      omega

theorem le_of_lastChange {c : Change} {rest : List Change}
    (h : LastChange t initial changes prev c rest) (hle : t + c.offset ≤ r.wall)
    (hlt : r.wall < t + c.offset + day)
    (hagain : r.again = false ∨ t - c.instant < prev - c.offset)
    (hpast : c.instant + (if r.again then min prev c.offset else max prev c.offset) ≤ r.wall) :
    t ≤ r.wall - offsetOfReading r initial changes := by
  obtain ⟨-, hchange, -, hapart, hrest⟩ := h.regular
  have hoffset := hrest.offset_lt
  have hday := day_eq
  rw [h.offsetOfReading_eq r (by omega), offsetOfReading, if_pos hpast]
  refine le_of_ahead hrest h.ahead hle hlt (hagain.imp id fun hsecond next hnext => ?_)
  have := hapart next hnext
  omega

theorem le_of_sameDay (hreg : RegularFrom initial changes)
    (hle : t + offsetAfter t initial changes ≤ r.wall)
    (hlt : r.wall < t + offsetAfter t initial changes + day)
    (hagain : r.again = repeats t initial changes) :
    t ≤ r.wall - offsetOfReading r initial changes := by
  rcases ahead_or_lastChange t hreg with hahead | ⟨prev, c, rest, h⟩
  · rw [offsetAfter_of_ahead hahead] at hle hlt
    rw [repeats_of_ahead hahead] at hagain
    exact le_of_ahead hreg hahead hle hlt (.inl hagain)
  · rw [h.offsetAfter_eq] at hle hlt
    rw [h.repeats_eq] at hagain
    have hc := h.le
    by_cases hsecond : t - c.instant < prev - c.offset
    · -- the clocks repeat what they showed before the change
      refine le_of_lastChange h hle hlt (.inr hsecond) ?_
      rw [hagain, decide_eq_true hsecond, if_pos rfl]
      omega
    · -- the clocks are past all that they showed before the change
      rw [decide_eq_false hsecond] at hagain
      refine le_of_lastChange h hle hlt (.inl hagain) ?_
      rw [hagain, if_neg Bool.false_ne_true]
      omega

theorem le_of_nextDay (hreg : RegularFrom initial changes) (hk : KeepsDatesFrom initial changes)
    (hle : ((t + offsetAfter t initial changes) / day + 1) * day ≤ r.wall)
    (hlt : r.wall < t + offsetAfter t initial changes + day) (hagain : r.again = false) :
    t ≤ r.wall - offsetOfReading r initial changes := by
  rcases ahead_or_lastChange t hreg with hahead | ⟨prev, c, rest, h⟩
  · rw [offsetAfter_of_ahead hahead] at hle hlt
    refine le_of_ahead hreg hahead ?_ hlt (.inl hagain)
    rw [day_eq] at hle
    omega
  · rw [h.offsetAfter_eq] at hle hlt
    have hc := h.le
    -- The next day begins after all that the clocks showed before the change.
    have hdates := (h.keepsDates hk).1
    rw [day_eq] at hdates hle
    refine le_of_lastChange h (by omega) hlt (.inl hagain) ?_
    rw [hagain, if_neg Bool.false_ne_true]
    omega

end

/-! ## The next occurrence -/

/-- The reading that is looked for at a reading, for a time of day: today's, or tomorrow's if the
clocks show a later time. -/
def target (r : Reading) (timeOfDay : Int) : Reading :=
  if midnight r.wall + timeOfDay < r.wall then ⟨midnight r.wall + timeOfDay + day, false⟩
  else ⟨midnight r.wall + timeOfDay, r.again⟩

variable {sendTime : String} {now : Stamp} {z : Zone} {w : Moment}

theorem midnight_eq (wall : Int) : midnight wall = wall / 86400000000 * 86400000000 := rfl

theorem atTime_eq_ok_iff {r r' : Reading} {hours minutes : Int} :
    atTime r hours minutes = .ok r' ↔ (0 ≤ hours ∧ hours ≤ 23) ∧ (0 ≤ minutes ∧ minutes ≤ 59) ∧
      r' = { r with wall := midnight r.wall + (hours * hour + minutes * minute) } := by
  rw [← Int.add_assoc]
  constructor
  · intro h
    unfold atTime at h
    split at h
    · cases h
    · rename_i hhours
      split at h
      · cases h
      · rename_i hminutes
        cases h
        simp only [Bool.or_eq_true, decide_eq_true_eq, not_or, Int.not_lt] at hhours hminutes
        exact ⟨hhours, hminutes, rfl⟩
  · rintro ⟨hhours, hminutes, rfl⟩
    unfold atTime
    rw [if_neg, if_neg]
    · simp only [Bool.or_eq_true, decide_eq_true_eq]
      omega
    · simp only [Bool.or_eq_true, decide_eq_true_eq]
      omega

theorem timeOfDay_mem {hours minutes : Int} (hhours : 0 ≤ hours ∧ hours ≤ 23)
    (hminutes : 0 ≤ minutes ∧ minutes ≤ 59) :
    0 ≤ hours * hour + minutes * minute ∧ hours * hour + minutes * minute < day := by
  simp only [day, hour, minute, second]
  omega

theorem sameDay_eq_ok_iff {r anchor : Reading} :
    sameDay sendTime now z = .ok (r, anchor) ↔
      ∃ hours minutes m, SendTime.read sendTime = .ok (hours, minutes) ∧ momentOf now = .ok m ∧
        z.localReading m = .ok r ∧ atTime r hours minutes = .ok anchor := by
  unfold sameDay
  constructor
  · intro h
    obtain ⟨⟨hours, minutes⟩, hread, h⟩ := bind_eq_ok_iff.mp h
    obtain ⟨m, hm, h⟩ := bind_eq_ok_iff.mp h
    obtain ⟨r', hr', h⟩ := bind_eq_ok_iff.mp h
    obtain ⟨anchor', hanchor, h⟩ := bind_eq_ok_iff.mp h
    cases h
    exact ⟨hours, minutes, m, mapError_eq_ok_iff.mp hread, hm, mapError_eq_ok_iff.mp hr', hanchor⟩
  · rintro ⟨hours, minutes, m, hread, hm, hr, hanchor⟩
    refine bind_eq_ok_iff.mpr ⟨(hours, minutes), mapError_eq_ok_iff.mpr hread, ?_⟩
    refine bind_eq_ok_iff.mpr ⟨m, hm, ?_⟩
    refine bind_eq_ok_iff.mpr ⟨r, mapError_eq_ok_iff.mpr hr, ?_⟩
    exact bind_eq_ok_iff.mpr ⟨anchor, hanchor, rfl⟩

theorem sameDay_eq_ok {r anchor : Reading} (h : sameDay sendTime now z = .ok (r, anchor)) :
    r = z.readingAt now.instant ∧ ∃ hours minutes,
      SendTime.read sendTime = .ok (hours, minutes) ∧
      (0 ≤ hours ∧ hours ≤ 23) ∧ (0 ≤ minutes ∧ minutes ≤ 59) ∧
      anchor = { r with wall := midnight r.wall + (hours * hour + minutes * minute) } := by
  obtain ⟨hours, minutes, m, hread, hm, hr, hanchor⟩ := sameDay_eq_ok_iff.mp h
  obtain ⟨hhours, hminutes, hanchor⟩ := atTime_eq_ok_iff.mp hanchor
  refine ⟨?_, hours, minutes, hread, hhours, hminutes, hanchor⟩
  have hnow : m = now.toMoment := by
    unfold momentOf at hm
    split at hm
    · cases hm
    · exact (Except.ok.inj hm).symm
  unfold Zone.localReading at hr
  dsimp only at hr
  split at hr
  · rw [hnow, Stamp.instant_toMoment] at hr
    exact (Except.ok.inj hr).symm
  · cases hr

theorem eq_of_daysLater {r r' : Reading} {days : Int} (h : daysLater r days = .ok r') :
    r' = ⟨r.wall + days * day, false⟩ := by
  unfold daysLater at h
  split at h
  · exact (Except.ok.inj h).symm
  · cases h

theorem eq_of_momentOf {r : Reading} (h : z.momentOf r = .ok w) :
    w = Moment.ofInstant (z.instantOf r) := by
  unfold Zone.momentOf at h
  split at h
  · exact (Except.ok.inj h).symm
  · cases h

theorem instant_of_momentOf {r : Reading} (h : z.momentOf r = .ok w) :
    w.instant = z.instantOf r := by
  rw [eq_of_momentOf h, Moment.instant_ofInstant]

/-- At every known time the send time is that time of the day that the clocks show. -/
def ReadsAs (sendTime : String) (z : Zone) (timeOfDay : Int) : Prop :=
  ∀ t : Int, inRange t = true → inRange (z.readingAt t).wall = true →
    sameDay sendTime (.ahead t 0) z = .ok (z.readingAt t,
      { z.readingAt t with wall := midnight (z.readingAt t).wall + timeOfDay })

theorem readsAs_of_read {hours minutes : Int}
    (hread : SendTime.read sendTime = .ok (hours, minutes))
    (hhours : 0 ≤ hours ∧ hours ≤ 23) (hminutes : 0 ≤ minutes ∧ minutes ≤ 59) :
    ReadsAs sendTime z (hours * hour + minutes * minute) := by
  intro t ht hshown
  have hlocal : z.localReading (Stamp.toMoment (.ahead t 0)) = .ok (z.readingAt t) := by
    have hinstant : (Stamp.toMoment (.ahead t 0)).instant = t := Int.sub_zero t
    unfold Zone.localReading
    dsimp only
    rw [hinstant, ht, hshown]
    rfl
  exact sameDay_eq_ok_iff.mpr
    ⟨hours, minutes, _, hread, rfl, hlocal, atTime_eq_ok_iff.mpr ⟨hhours, hminutes, rfl⟩⟩

theorem next_eq_ok (h : next sendTime now z = .ok w) :
    ∃ timeOfDay, 0 ≤ timeOfDay ∧ timeOfDay < day ∧ ReadsAs sendTime z timeOfDay ∧
      w = Moment.ofInstant (z.instantOf (target (z.readingAt now.instant) timeOfDay)) := by
  unfold next at h
  obtain ⟨⟨r, anchor⟩, hsame, h⟩ := bind_eq_ok_iff.mp h
  obtain ⟨rfl, hours, minutes, hread, hhours, hminutes, rfl⟩ := sameDay_eq_ok hsame
  obtain ⟨hle, hlt⟩ := timeOfDay_mem hhours hminutes
  refine ⟨_, hle, hlt, readsAs_of_read hread hhours hminutes, ?_⟩
  dsimp only at h
  unfold target
  split
  · rename_i hlate
    rw [if_pos hlate] at h
    obtain ⟨r', hr', h⟩ := bind_eq_ok_iff.mp h
    rw [eq_of_momentOf (mapError_eq_ok_iff.mp h), eq_of_daysLater hr', Int.one_mul]
  · rename_i hlate
    rw [if_neg hlate] at h
    rw [eq_of_momentOf (mapError_eq_ok_iff.mp h)]

/-- The reading that is looked for is the next one that shows the time of day; it is of the same
pass, or of the next day. -/
theorem target_cases (r : Reading) {timeOfDay : Int} (hle : 0 ≤ timeOfDay) (hlt : timeOfDay < day) :
    r.wall ≤ (target r timeOfDay).wall ∧ (target r timeOfDay).wall < r.wall + day ∧
      ((target r timeOfDay).again = r.again ∨
        (r.wall / day + 1) * day ≤ (target r timeOfDay).wall ∧
          (target r timeOfDay).again = false) := by
  unfold target midnight
  rw [day_eq] at *
  split
  · refine ⟨?_, ?_, .inr ⟨?_, rfl⟩⟩
    · show r.wall ≤ r.wall / 86400000000 * 86400000000 + timeOfDay + 86400000000
      omega
    · show r.wall / 86400000000 * 86400000000 + timeOfDay + 86400000000 < r.wall + 86400000000
      omega
    · show _ ≤ r.wall / 86400000000 * 86400000000 + timeOfDay + 86400000000
      omega
  · rename_i hlate
    refine ⟨?_, ?_, .inl rfl⟩
    · show r.wall ≤ r.wall / 86400000000 * 86400000000 + timeOfDay
      omega
    · show r.wall / 86400000000 * 86400000000 + timeOfDay < r.wall + 86400000000
      omega

theorem midnight_target (r : Reading) {timeOfDay : Int} (hle : 0 ≤ timeOfDay)
    (hlt : timeOfDay < day) :
    midnight (target r timeOfDay).wall + timeOfDay = (target r timeOfDay).wall := by
  have hday := day_eq
  unfold target
  split
  · rw [midnight_eq, midnight_eq]
    dsimp only
    omega
  · rw [midnight_eq, midnight_eq]
    dsimp only
    omega

/-- In a zone whose clocks keep dates, the next occurrence is not before the time. -/
theorem le_next (hz : z.Regular) (hk : z.KeepsDates) (h : next sendTime now z = .ok w) :
    now.instant ≤ w.instant := by
  obtain ⟨timeOfDay, hle, hlt, -, hw⟩ := next_eq_ok h
  rw [hw, Moment.instant_ofInstant]
  obtain ⟨hwall, hday, hpass⟩ := target_cases (z.readingAt now.instant) hle hlt
  cases z with
  | utc =>
    simp only [Zone.readingAt, Zone.offsetAt, Zone.instantOf, Zone.offsetOf] at *
    omega
  | fixed offset =>
    simp only [Zone.readingAt, Zone.offsetAt, Zone.instantOf, Zone.offsetOf] at *
    omega
  | regional key initial changes =>
    rcases hpass with hpass | ⟨hnext, hpass⟩
    · exact le_of_sameDay hz hwall hday hpass
    · exact le_of_nextDay hz hk hnext hday hpass

/-! ## Midnight in the first pass -/

/-- The clocks show the last moment of a day, and midnight, looked for in the first pass, has
passed. -/
structure MidnightPassed (z : Zone) (t boundary : Int) : Prop where
  reading : ∃ again, z.readingAt t = ⟨boundary - 1, again⟩
  whole : ∃ days, boundary = days * day
  passed : z.instantOf ⟨boundary, false⟩ < t
  early : 2 * day ≤ t ∧ 3 * day ≤ boundary
  late : t + 2 * day ≤ endOfTime ∧ boundary + 2 * day ≤ endOfTime

/-- Where clocks are put back across midnight, there is such a moment. -/
theorem exists_midnightPassed (hz : z.Regular) (hk : ¬ z.KeepsDates) :
    ∃ t boundary, MidnightPassed z t boundary := by
  cases z with
  | utc => exact absurd trivial hk
  | fixed offset => exact absurd trivial hk
  | regional key initial changes =>
    obtain ⟨prev, c, rest, hback, hreg, hlast⟩ := exists_midnight_back hz hk
    obtain ⟨hprev, hchange, ⟨hearly, hlate⟩, -, hrest⟩ := hreg
    have hoffset := hrest.offset_lt
    obtain ⟨days, hdays⟩ : ∃ days, days = (c.instant + c.offset) / day + 1 := ⟨_, rfl⟩
    rw [day_eq] at *
    -- The last moment of the day to which the clocks were put back, shown for the second time.
    have hlast' := hlast (days * 86400000000 - 1 - c.offset) (by omega) (by omega)
    refine ⟨days * 86400000000 - 1 - c.offset, days * 86400000000, ?_, ⟨days, rfl⟩, ?_, ?_, ?_⟩
    · refine ⟨Zone.repeats (days * 86400000000 - 1 - c.offset) initial changes, ?_⟩
      rw [Zone.readingAt, Zone.offsetAt, hlast'.offsetAfter_eq]
      congr 1
      omega
    · show days * 86400000000
        - Zone.offsetOfReading ⟨days * 86400000000, false⟩ initial changes < _
      have hnot : ¬ c.instant + (if false = true then min prev c.offset else max prev c.offset)
          ≤ days * 86400000000 := by
        rw [if_neg Bool.false_ne_true]
        omega
      rw [hlast'.offsetOfReading_eq _ (by rw [day_eq]; show _ ≤ days * 86400000000; omega),
        Zone.offsetOfReading, if_neg hnot]
      omega
    · rw [day_eq]
      omega
    · rw [day_eq]
      omega

theorem inRange_of {t : Int} (h : 0 ≤ t) (h' : t < endOfTime) : inRange t = true := by
  unfold inRange
  rw [Bool.and_eq_true, decide_eq_true_eq, decide_eq_true_eq]
  exact ⟨h, h'⟩

theorem read_midnight : SendTime.read "00:00" = .ok (0, 0) := by rfl

theorem daysLater_eq_ok {r : Reading} {days : Int} (h : 0 ≤ r.wall + days * day)
    (h' : r.wall + days * day < endOfTime) :
    daysLater r days = .ok ⟨r.wall + days * day, false⟩ := by
  unfold daysLater
  rw [inRange_of h h']
  rfl

theorem momentOf_eq_ok {r : Reading} (hz : z.WithinADay) (h : day ≤ r.wall)
    (h' : r.wall + day ≤ endOfTime) :
    z.momentOf r = .ok (Moment.ofInstant (z.instantOf r)) := by
  have hoffset := hz.offsetOf_lt r
  have hinstant : z.instantOf r = r.wall - z.offsetOf r := rfl
  unfold Zone.momentOf
  rw [inRange_of (by rw [hinstant]; omega) (by rw [hinstant]; omega)]
  rfl

theorem findWithin_cons_of_ok {anchor r : Reading} {scheduled : Stamp} {days : Int}
    (hscheduled : scheduled.isLocal = false) (hlater : daysLater anchor days = .ok r)
    (hmoment : z.momentOf r = .ok w) (tolerance : Amount) (rest : List Int) :
    findWithin anchor scheduled z tolerance (days :: rest)
      = if tolerance.covers (w.instant - scheduled.instant) = true then .ok (some w)
        else findWithin anchor scheduled z tolerance rest := by
  rw [findWithin, hlater]
  change ((z.momentOf r).mapError Failure.overflow >>= _) = _
  rw [hmoment]
  change (if scheduled.isLocal = true then _ else _) = _
  rw [if_neg (by rw [hscheduled]; exact Bool.false_ne_true)]
  rfl

/-- On days whose occurrences can all be shown, the search finds the first of them that is within
the tolerance. -/
theorem findWithin_eq_find? {anchor : Reading} {scheduled : Stamp} {occurrence : Int → Moment}
    {offsets : List Int} (hscheduled : scheduled.isLocal = false)
    (h : ∀ days ∈ offsets,
      ∃ r, daysLater anchor days = .ok r ∧ z.momentOf r = .ok (occurrence days))
    (tolerance : Amount) :
    findWithin anchor scheduled z tolerance offsets = .ok ((offsets.map occurrence).find?
      fun w => tolerance.covers (w.instant - scheduled.instant)) := by
  induction offsets with
  | nil => rfl
  | cons days rest ih =>
    obtain ⟨⟨r, hlater, hmoment⟩, hrest⟩ := List.forall_mem_cons.mp h
    rw [findWithin_cons_of_ok hscheduled hlater hmoment, List.map_cons, List.find?_cons]
    split
    · rename_i hcovers
      rw [hcovers]
    · rename_i hcovers
      rw [Bool.eq_false_iff.mpr hcovers]
      exact ih hrest

theorem isOpen_eq_of_parked {scheduled : Stamp} {tolerance grace : Amount} {span : Int}
    (hparked : parked sendTime scheduled z tolerance = .ok (some w))
    (hspan : grace.toSpan = .ok span) (hrange : inRange (w.wall + span) = true)
    (hnow : now.isLocal = false) :
    isOpen sendTime scheduled now z tolerance grace
      = .ok (decide (now.instant ≤ w.instant + span)) := by
  have hadd : w.add span = .ok { w with wall := w.wall + span } := by
    unfold Moment.add
    rw [if_pos hrange]
  unfold isOpen
  refine bind_eq_ok_iff.mpr ⟨some w, hparked, ?_⟩
  refine bind_eq_ok_iff.mpr ⟨span, mapError_eq_ok_iff.mpr hspan, ?_⟩
  refine bind_eq_ok_iff.mpr ⟨_, mapError_eq_ok_iff.mpr hadd, ?_⟩
  rw [hnow, Moment.instant_of_add hadd]
  rfl

theorem not_covers_negative (span : Int) : ¬ (Amount.whole (-1)).covers span = true := by
  show ¬ decide ((span.natAbs : Int) ≤ -1 * second) = true
  rw [decide_eq_true_iff, second]
  omega

section
variable {t boundary : Int} (h : MidnightPassed z t boundary)
include h

theorem sameDay_of_midnightPassed :
    ∃ again, sameDay "00:00" (.ahead t 0) z
      = .ok (⟨boundary - 1, again⟩, ⟨boundary - day, again⟩) := by
  obtain ⟨again, hagain⟩ := h.reading
  obtain ⟨days, hdays⟩ := h.whole
  obtain ⟨hearly, hearly'⟩ := h.early
  obtain ⟨hlate, hlate'⟩ := h.late
  have hday := day_eq
  have hsame := readsAs_of_read (z := z) read_midnight (by decide) (by decide) t
    (inRange_of (by omega) (by omega))
    (by rw [hagain]; exact inRange_of (by dsimp only; omega) (by dsimp only; omega))
  have hwall : midnight (boundary - 1) + (0 * hour + 0 * minute) = boundary - day := by
    rw [midnight_eq, hdays, day_eq]
    omega
  refine ⟨again, ?_⟩
  rw [hsame, hagain]
  dsimp only
  rw [hwall]

theorem midnights_of_midnightPassed (hz : z.Regular) (again : Bool) {days : Int}
    (hlow : -1 ≤ days) (hhigh : days ≤ 1) :
    daysLater ⟨boundary - day, again⟩ days = .ok ⟨boundary - day + days * day, false⟩ ∧
      z.momentOf ⟨boundary - day + days * day, false⟩
        = .ok (Moment.ofInstant (z.instantOf ⟨boundary - day + days * day, false⟩)) := by
  obtain ⟨-, hearly⟩ := h.early
  obtain ⟨-, hlate⟩ := h.late
  have hearliest : day ≤ boundary - day + days * day := by
    rw [day_eq] at *
    omega
  have hlatest : boundary - day + days * day + day ≤ endOfTime := by
    rw [day_eq] at *
    omega
  have hfirst : 0 ≤ boundary - day + days * day := by
    rw [day_eq] at *
    omega
  have hlast : boundary - day + days * day < endOfTime := by
    rw [day_eq] at *
    omega
  exact ⟨daysLater_eq_ok hfirst hlast, momentOf_eq_ok hz.withinADay hearliest hlatest⟩

/-- At such a moment the next midnight is one that has passed. -/
theorem next_of_midnightPassed (hz : z.Regular) :
    next "00:00" (.ahead t 0) z = .ok (Moment.ofInstant (z.instantOf ⟨boundary, false⟩)) := by
  obtain ⟨again, hsame⟩ := sameDay_of_midnightPassed h
  obtain ⟨hlater, hmoment⟩ :=
    midnights_of_midnightPassed h hz again (show (-1 : Int) ≤ 1 by decide) (Int.le_refl 1)
  have hwall : boundary - day + 1 * day = boundary := by omega
  rw [hwall] at hlater hmoment
  unfold next
  refine bind_eq_ok_iff.mpr ⟨_, hsame, ?_⟩
  dsimp only
  -- The clocks show the last moment of a day, so midnight is tomorrow's.
  rw [if_pos (by rw [day_eq]; omega)]
  exact bind_eq_ok_iff.mpr ⟨_, hlater, mapError_eq_ok_iff.mpr hmoment⟩

/-- No midnight is less than nothing away, so an execution that is resumed at such a moment waits
again. -/
theorem isOpen_of_midnightPassed (hz : z.Regular) (grace : Amount) :
    isOpen "00:00" (.ahead t 0) (.ahead t 0) z (.whole (-1)) grace = .ok false := by
  obtain ⟨again, hsame⟩ := sameDay_of_midnightPassed h
  have hmidnights : ∀ days ∈ ([-1, 0, 1] : List Int), ∃ r,
      daysLater ⟨boundary - day, again⟩ days = .ok r ∧ z.momentOf r
        = .ok (Moment.ofInstant (z.instantOf ⟨boundary - day + days * day, false⟩)) := by
    intro days hdays
    have hdays : -1 ≤ days ∧ days ≤ 1 := by
      simp only [List.mem_cons, List.not_mem_nil, or_false] at hdays
      omega
    exact ⟨_, midnights_of_midnightPassed h hz again hdays.1 hdays.2⟩
  have hfind : findWithin ⟨boundary - day, again⟩ (.ahead t 0) z (.whole (-1)) [-1, 0, 1]
      = .ok none := by
    rw [findWithin_eq_find? rfl hmidnights]
    exact congrArg _ (List.find?_eq_none.mpr fun w _ => not_covers_negative _)
  unfold isOpen parked
  rw [hsame]
  exact bind_eq_ok_iff.mpr ⟨none, hfind, rfl⟩

end

/-- The next occurrence is never before the time exactly in zones whose clocks keep dates. -/
theorem le_next_iff (hz : z.Regular) :
    (∀ sendTime now w, next sendTime now z = .ok w → now.instant ≤ w.instant) ↔ z.KeepsDates := by
  constructor
  · intro hle
    by_contra hk
    obtain ⟨t, boundary, h⟩ := exists_midnightPassed hz hk
    have := hle _ _ _ (next_of_midnightPassed h hz)
    have hpassed := h.passed
    rw [Moment.instant_ofInstant] at this
    have hinstant : (Stamp.ahead t 0).instant = t := Int.sub_zero t
    omega
  · intro hk sendTime now w h
    exact le_next hz hk h

end Nurture.SendWindow
