import Nurture.Proofs.PassLog
import Nurture.Proofs.Rounding
import Nurture.Proofs.SendWindows

/-!
  Messages are sent in their windows

  A window of a send time opens on each date, when the zone's clocks show it. The
  handler of a node asks only where the time sits that its execution was parked until:
  within the tolerance of a window that is not over yet. That the window has opened,
  or is to open within the tolerance, is left to the pass, which drives nothing before
  its time. Both together put every message with a send time into a window
  (`processExecutions_onTime`).
-/

namespace Nurture

open Calendar

/-! ## Windows -/

/-- A window of a send time: the date on which it opens, and the time of day that is read. -/
structure Window (sendTime : String) where
  date : Nat
  hours : Int
  minutes : Int
  read : SendTime.read sendTime = .ok (hours, minutes)
  date_lt : date < Date.dayCount
  hours_mem : 0 ≤ hours ∧ hours ≤ 23
  minutes_mem : 0 ≤ minutes ∧ minutes ≤ 59

/-- When the window opens: at the instant at which the zone's clocks show the time of day on that
date. Of two such instants it is the first, and a time that is skipped is reckoned as before the
change. -/
def Window.opens {sendTime : String} (v : Window sendTime) (z : Zone) : Int :=
  z.instantOf ⟨v.date * day + v.hours * hour + v.minutes * minute, false⟩

/-- Half past one, which clocks in New York show twice, is the first time; half past two, which they
skip, is half an hour after the change. -/
example :
    (⟨Date.toDays ⟨2024, 11, 3⟩, 1, 30, rfl, by decide, by decide, by decide⟩ :
      Window "01:30").opens Zone.table[1] = Zone.utcInstant 2024 11 3 5 30 ∧
    (⟨Date.toDays ⟨2024, 3, 10⟩, 2, 30, rfl, by decide, by decide, by decide⟩ :
      Window "02:30").opens Zone.table[1] = Zone.utcInstant 2024 3 10 7 30 := by
  decide +kernel

/-- The time is in a window: it opens no later than the tolerance after the time, and it opened no
longer ago than the grace period. -/
def Policy.OnTime (p : Policy) (sendTime : String) (now : Stamp) : Prop :=
  ∃ (v : Window sendTime) (span : Int),
    p.tolerance.covers (max 0 (v.opens p.zone - now.instant)) = true ∧
      p.grace.toSpan = .ok span ∧ now.instant ≤ v.opens p.zone + span

/-- With whole seconds, a time that is in a window lies between the tolerance before it opens and
the grace period after. -/
theorem Policy.OnTime.whole {p : Policy} {sendTime : String} {now : Stamp} {n k : Int}
    (h : p.OnTime sendTime now) (htolerance : p.tolerance = .whole n)
    (hgrace : p.grace = .whole k) :
    ∃ v : Window sendTime,
      v.opens p.zone - n * second ≤ now.instant ∧ now.instant ≤ v.opens p.zone + k * second := by
  obtain ⟨v, span, hcovers, hspan, hle⟩ := h
  rw [htolerance, Amount.covers_whole_iff] at hcovers
  rw [hgrace] at hspan
  rw [Amount.toSpan_whole hspan] at hle
  exact ⟨v, by omega, hle⟩

namespace SendWindow

variable {sendTime : String} {scheduled now : Stamp} {z : Zone} {tolerance grace : Amount}

theorem inRange_of_daysLater {r r' : Reading} {days : Int} (h : daysLater r days = .ok r') :
    inRange (r.wall + days * day) = true := by
  unfold daysLater at h
  split at h
  · assumption
  · cases h

theorem findWithin_eq_some {anchor : Reading} {offsets : List Int} {m : Moment}
    (h : findWithin anchor scheduled z tolerance offsets = .ok (some m)) :
    ∃ days r, daysLater anchor days = .ok r ∧ z.momentOf r = .ok m ∧
      tolerance.covers (m.instant - scheduled.instant) = true := by
  induction offsets with
  | nil => cases h
  | cons days rest ih =>
    unfold findWithin at h
    obtain ⟨r, hr, h⟩ := bind_eq_ok_iff.mp h
    obtain ⟨m', hm, h⟩ := bind_eq_ok_iff.mp h
    by_cases hlocal : scheduled.isLocal = true
    · rw [if_pos hlocal] at h
      cases h
    · rw [if_neg hlocal] at h
      by_cases hcovers : tolerance.covers (m'.instant - scheduled.instant) = true
      · simp only [hcovers, if_true] at h
        cases h
        exact ⟨days, r, hr, mapError_eq_ok_iff.mp hm, hcovers⟩
      · simp only [hcovers, Bool.false_eq_true, if_false] at h
        exact ih h

/-- The window that a time sits on is within the tolerance of it. -/
theorem parked_eq_some {m : Moment} (h : parked sendTime scheduled z tolerance = .ok (some m)) :
    ∃ v : Window sendTime, m.instant = v.opens z ∧
      tolerance.covers (m.instant - scheduled.instant) = true := by
  unfold parked at h
  obtain ⟨⟨r, anchor⟩, hsame, h⟩ := bind_eq_ok_iff.mp h
  obtain ⟨-, hours, minutes, hread, hhours, hminutes, hanchor⟩ := sameDay_eq_ok hsame
  have hwall : anchor.wall = midnight r.wall + (hours * hour + minutes * minute) := by rw [hanchor]
  obtain ⟨days, r', hlater, hm, hcovers⟩ := findWithin_eq_some h
  have hinRange := inRange_of_daysLater hlater
  unfold inRange at hinRange
  rw [Bool.and_eq_true, decide_eq_true_eq, decide_eq_true_eq] at hinRange
  -- The day of the window, counted from the start of the calendar.
  obtain ⟨date, hdate⟩ : ∃ date : Nat, (date : Int) = r.wall / day + days := by
    refine ⟨(r.wall / day + days).toNat, Int.toNat_of_nonneg ?_⟩
    simp only [hwall, midnight, day_eq, hour, minute, second] at *
    omega
  have hreading : r' = ⟨date * day + hours * hour + minutes * minute, false⟩ := by
    have hday : anchor.wall + days * day = date * day + hours * hour + minutes * minute := by
      rw [hwall, midnight, hdate, Int.add_mul]
      omega
    rw [eq_of_daysLater hlater, hday]
  have hlt : date < Date.dayCount := by
    simp only [hwall, midnight, endOfTime, day_eq, hour, minute, second] at *
    omega
  refine ⟨⟨date, hours, minutes, hread, hlt, hhours, hminutes⟩, ?_, hcovers⟩
  rw [instant_of_momentOf hm, hreading]
  rfl

/-- If a window is open for an execution that was not parked beyond now, then now is in it. -/
theorem onTime_of_isOpen {p : Policy} (hdue : scheduled.instant ≤ now.instant)
    (h : isOpen sendTime scheduled now p.zone p.tolerance p.grace = .ok true) :
    p.OnTime sendTime now := by
  unfold isOpen at h
  obtain ⟨found, hparked, h⟩ := bind_eq_ok_iff.mp h
  cases found with
  | none => cases h
  | some m =>
    obtain ⟨span, hspan, h⟩ := bind_eq_ok_iff.mp h
    obtain ⟨last, hlast, h⟩ := bind_eq_ok_iff.mp h
    obtain ⟨v, hopens, hcovers⟩ := parked_eq_some hparked
    have hlast' := Moment.instant_of_add (mapError_eq_ok_iff.mp hlast)
    split at h
    · cases h
    · have hle : now.instant ≤ last.instant := decide_eq_true_iff.mp (Except.ok.inj h)
      refine ⟨v, span, ?_, mapError_eq_ok_iff.mp hspan, by rw [← hopens]; omega⟩
      -- What is left until the window opens is no longer than what was left when it was due.
      refine Amount.covers_of_le ?_ hcovers
      rw [← hopens]
      omega

end SendWindow

/-! ## Whole passes -/

/-- Whatever a pass attempts is in its log, and a WhatsApp message in it is that of a node which,
if it has a send time, is on time. -/
theorem processExecutions_onTime {σ : Type} (now : Stamp) (s : Surroundings σ) (w : World σ) :
    ((processExecutions now).run s w).2.attempts
        = w.attempts ++ (passLog now s w).flatMap Drive.attempts ∧
      ∀ d ∈ passLog now s w, ∀ v ∈ d.visits, ∀ a ∈ v.tried,
        ∀ recipient template values text, a.message = .whatsApp recipient template values text →
          ∃ data next, v.node.task = .whatsApp data next ∧
            ∀ sendTime, filled data.sendTime = some sendTime → s.policy.OnTime sendTime now := by
  refine ⟨attempts_processExecutions now s w, ?_⟩
  intro d hd v hv a ha recipient template values text hmessage
  obtain ⟨hdue, hvisits⟩ := mem_passLog hd
  obtain ⟨lead, r, hcame⟩ := hvisits v hv
  have hsends := hcame.sends a ha
  rw [hmessage] at hsends
  cases hsends with
  | @whatsApp data next htask hwindow text =>
    refine ⟨data, next, htask, fun sendTime hsendTime => ?_⟩
    -- The handler found the window open; that it is not too early is known from the pass.
    unfold Execution.isDue at hdue
    rw [Bool.and_eq_true, decide_eq_true_eq] at hdue
    have hopen := Step.isOpen_of_windowToAwait hsendTime hwindow
    exact SendWindow.onTime_of_isOpen hdue.2 hopen

end Nurture
