import Nurture.Proofs.OnTime
import Nurture.Proofs.ZoneReadings

/-!
  Woken in the window they were parked for

  A node with a send time parks its execution for the next occurrence of it, and when the execution
  is resumed, the occurrence is looked for again, from the time until which it was parked. The
  two searches come to the same window, whatever the clocks skip or repeat, unless the window opens
  in the second pass of times that the clocks show twice (`woken_iff`).

  The search from now on keeps the pass in which the clocks are; the one from the parked time goes
  by days, and is always in the first pass. So an execution that is parked for a window in the
  second pass finds none when that window opens, and is parked for another day
  (`HalfPastOne.parked_again`).
-/

namespace Nurture

open Calendar

/-- The amount is one of seconds: no less than nothing, and no more than half a day. -/
structure Calendar.Amount.UpToHalfDay (a : Amount) : Prop where
  nothing : a.covers 0 = true
  far : ∀ span : Int, a.covers span = true → 2 * (span.natAbs : Int) ≤ day

theorem Calendar.Amount.upToHalfDay_whole {n : Int} (hle : 0 ≤ n) (hlt : n ≤ 43200) :
    (Amount.whole n).UpToHalfDay where
  nothing := by
    rw [covers_whole_iff, second]
    omega
  far span h := by
    rw [covers_whole_iff, second] at h
    rw [day_eq]
    omega

namespace SendWindow

variable {sendTime : String} {now : Stamp} {z : Zone} {w : Moment} {tolerance : Amount}

/-! ## The window is found again -/

theorem findWithin_cons (hz : z.Regular) {anchor : Reading} {t : Int} (tolerance : Amount)
    {days : Int} (rest : List Int) (hearly : day ≤ anchor.wall + days * day)
    (hlate : anchor.wall + days * day + day ≤ endOfTime) :
    findWithin anchor (.ahead t 0) z tolerance (days :: rest)
      = if tolerance.covers (z.instantOf ⟨anchor.wall + days * day, false⟩ - t) = true then
          .ok (some (Moment.ofInstant (z.instantOf ⟨anchor.wall + days * day, false⟩)))
        else findWithin anchor (.ahead t 0) z tolerance rest := by
  have hday := day_eq
  have hlater : daysLater anchor days = .ok ⟨anchor.wall + days * day, false⟩ :=
    daysLater_eq_ok (by omega) (by omega)
  have hmoment := momentOf_eq_ok (r := ⟨anchor.wall + days * day, false⟩) hz.withinADay hearly hlate
  rw [findWithin_cons_of_ok rfl hlater hmoment, Moment.instant_ofInstant,
    Stamp.instant_ahead, Int.sub_zero]

/-- A window in the first pass is found again from its own instant. -/
theorem parked_of_first (hz : z.Regular) (hskips : z.SkipsHoursOrDay)
    (htolerance : tolerance.UpToHalfDay) {wall timeOfDay : Int}
    (hreads : ReadsAs sendTime z timeOfDay) (hwall : midnight wall + timeOfDay = wall)
    (hearly : 2 * day ≤ wall) (hlate : wall + 2 * day ≤ endOfTime) :
    parked sendTime (.ahead (z.instantOf ⟨wall, false⟩) 0) z tolerance
      = .ok (some (Moment.ofInstant (z.instantOf ⟨wall, false⟩))) := by
  have hday := day_eq
  have hoffset := hz.withinADay.offsetOf_lt ⟨wall, false⟩
  have hinstant : z.instantOf ⟨wall, false⟩ = wall - z.offsetOf ⟨wall, false⟩ := rfl
  obtain ⟨skipped, hskipped, hskipped', hshown⟩ := Zone.readingAt_instantOf hz wall
  have hsame := hreads (z.instantOf ⟨wall, false⟩) (inRange_of (by omega) (by omega))
    (by rw [hshown]; exact inRange_of (by dsimp only; omega) (by dsimp only; omega))
  rw [hshown] at hsame
  obtain ⟨t, ht⟩ : ∃ t, z.instantOf ⟨wall, false⟩ = t := ⟨_, rfl⟩
  have hnothing : tolerance.covers (t - t) = true := by
    rw [Int.sub_self]
    exact htolerance.nothing
  unfold parked
  rw [hsame, ht]
  change findWithin ⟨midnight (wall + skipped) + timeOfDay, false⟩ _ z tolerance [-1, 0, 1] = _
  -- The search begins on the day that the clocks show then: the window's own or the next.
  have hanchor : midnight (wall + skipped) + timeOfDay = wall + day ∨
      midnight (wall + skipped) + timeOfDay = wall := by
    rw [midnight_eq] at hwall ⊢
    omega
  rcases hanchor with hanchor | hanchor
  · -- what is skipped takes the clocks to the next day, and the day before is the window's
    have hbefore : wall + day + -1 * day = wall := by omega
    rw [hanchor, findWithin_cons hz tolerance _ (by dsimp only; omega) (by dsimp only; omega)]
    dsimp only
    rw [hbefore, ht, if_pos hnothing]
  · have hbefore : wall + -1 * day = wall - day := by omega
    have hsame : wall + 0 * day = wall := by omega
    rw [hanchor, findWithin_cons hz tolerance _ (by dsimp only; omega) (by dsimp only; omega)]
    dsimp only
    rw [hbefore]
    have hapart := Zone.instantOf_day hz hskips (wall - day)
    rw [Int.sub_add_cancel, ht] at hapart
    rcases hapart with hapart | hskip
    · -- the window of the day before is too far away
      have hfar : ¬ tolerance.covers (z.instantOf ⟨wall - day, false⟩ - t) = true := by
        intro hcovers
        have := htolerance.far _ hcovers
        omega
      rw [if_neg hfar, findWithin_cons hz tolerance _ (by dsimp only; omega) (by dsimp only; omega)]
      dsimp only
      rw [hsame, ht, if_pos hnothing]
    · -- a day was skipped, and the windows of both are the same
      rw [← hskip, if_pos hnothing]

theorem first_of_parked (hz : z.Regular) {scheduled : Stamp}
    (h : parked sendTime scheduled z tolerance = .ok (some w)) :
    (z.readingAt w.instant).again = false := by
  unfold parked at h
  obtain ⟨⟨r, anchor⟩, -, h⟩ := bind_eq_ok_iff.mp h
  obtain ⟨days, r', hlater, hmoment, -⟩ := findWithin_eq_some h
  obtain ⟨skipped, -, -, hshown⟩ := Zone.readingAt_instantOf hz (anchor.wall + days * day)
  rw [instant_of_momentOf hmoment, eq_of_daysLater hlater, hshown]

/-- The next occurrence, unless it is in the second pass, is that of a reading of the first pass. -/
theorem next_eq_first (hz : z.Regular) {timeOfDay : Int} (hle : 0 ≤ timeOfDay)
    (hlt : timeOfDay < day) {t : Int}
    (hfirst : (z.readingAt (z.instantOf (target (z.readingAt t) timeOfDay))).again = false) :
    z.instantOf (target (z.readingAt t) timeOfDay)
      = z.instantOf ⟨(target (z.readingAt t) timeOfDay).wall, false⟩ := by
  obtain ⟨hwall, hwall', -⟩ := target_cases (z.readingAt t) hle hlt
  cases hagain : (target (z.readingAt t) timeOfDay).again with
  | false => rw [← hagain]
  | true =>
    -- The pass is kept, so the clocks are in the second one now.
    have hnow : (z.readingAt t).again = true := by
      unfold target at hagain
      split at hagain
      · cases hagain
      · exact hagain
    obtain ⟨wall, hw⟩ : ∃ wall, target (z.readingAt t) timeOfDay = ⟨wall, true⟩ :=
      ⟨_, by rw [← hagain]⟩
    rw [hw] at hwall hwall' hfirst ⊢
    exact Zone.instantOf_again hz hnow hwall hwall' hfirst

theorem parked_of_next (hz : z.Regular) (hskips : z.SkipsHoursOrDay)
    (htolerance : tolerance.UpToHalfDay) (hearly : 3 * day ≤ now.instant)
    (hlate : now.instant + 4 * day ≤ endOfTime) (h : next sendTime now z = .ok w)
    (hfirst : (z.readingAt w.instant).again = false) :
    parked sendTime w.toStamp z tolerance = .ok (some w) := by
  have hday := day_eq
  obtain ⟨timeOfDay, hle, hlt, hreads, rfl⟩ := next_eq_ok h
  rw [Moment.instant_ofInstant] at hfirst
  obtain ⟨hwall, hwall', -⟩ := target_cases (z.readingAt now.instant) hle hlt
  have hshown : (z.readingAt now.instant).wall = now.instant + z.offsetAt now.instant := rfl
  have hoffset := hz.withinADay.offsetAt_lt now.instant
  rw [next_eq_first hz hle hlt hfirst]
  exact parked_of_first hz hskips htolerance hreads (midnight_target _ hle hlt) (by omega)
    (by omega)

theorem isOpen_of_parked {grace : Amount} {span : Int}
    (hparked : parked sendTime w.toStamp z tolerance = .ok (some w))
    (hspan : grace.toSpan = .ok span) (hrange : inRange (w.wall + span) = true)
    (hnow : now.isLocal = false) (hlast : now.instant ≤ w.instant + span) :
    isOpen sendTime w.toStamp now z tolerance grace = .ok true := by
  rw [isOpen_eq_of_parked hparked hspan hrange hnow, decide_eq_true hlast]

end SendWindow

/-! ## The node is run -/

namespace Step

variable {σ : Type} {s : Surroundings σ} {ctx : StepContext} {data : WhatsAppData}

open Nurture.Action

theorem run_whatsApp_of_open (hopen : windowToAwait ctx data s.policy = .ok none)
    (nodeId : String) (next : Option String) (w : World σ) :
    (whatsApp ctx nodeId data next).run s w
      = (whatsApp ctx nodeId { data with sendTime := none } next).run s w := by
  have hnone : windowToAwait ctx { data with sendTime := none } s.policy = .ok none := rfl
  unfold whatsApp
  rw [run_bind_ok (run_policy s w), run_bind_ok (run_policy s w), hopen, hnone,
    run_bind_ok (run_ofExcept _ s w), run_bind_ok (run_ofExcept _ s w)]
  rfl

theorem whatsApp_goes_on (hopen : windowToAwait ctx data s.policy = .ok none) (nodeId : String)
    (next : Option String) (w : World σ) (node : String) (resumeAt : Stamp) :
    ((whatsApp ctx nodeId data next).run s w).1 ≠ .ok (.suspended node resumeAt) := by
  intro hparked
  have htask : (⟨⟨nodeId, .origin⟩, .whatsApp data next⟩ : Node).task = .whatsApp data next := rfl
  obtain ⟨-, tried, -, hcame⟩ := whatsApp_came (s := s) ctx _ htask w
  dsimp only at hcame
  rw [hparked] at hcame
  cases hcame.waits with
  | delay hdelays =>
    obtain ⟨_, htask, -⟩ := hdelays
    cases htask
  | window htask hwindow =>
    cases htask
    rw [hopen] at hwindow
    cases hwindow

end Step

/-- An execution that is parked for the window is woken in it. -/
structure Woken (sendTime : String) (z : Zone) (tolerance : Amount) (w : Moment) : Prop where
  /-- The window is found again from the time until which the execution was parked. -/
  found : SendWindow.parked sendTime w.toStamp z tolerance = .ok (some w)
  /-- From then on until the grace period is over, a node with the send time is run like one
  without: the execution is not parked again. -/
  goes_on : ∀ {σ : Type} (s : Surroundings σ) (ctx : StepContext) (nodeId : String)
    (data : WhatsAppData) (next : Option String) (span : Int) (w₀ : World σ),
    s.policy.zone = z → s.policy.tolerance = tolerance → s.policy.grace.toSpan = .ok span →
    inRange (w.wall + span) = true → filled data.sendTime = some sendTime →
    ctx.execution.nextRunAt = w.toStamp → ctx.now.isLocal = false →
    w.instant ≤ ctx.now.instant → ctx.now.instant ≤ w.instant + span →
      (Step.whatsApp ctx nodeId data next).run s w₀
          = (Step.whatsApp ctx nodeId { data with sendTime := none } next).run s w₀ ∧
        ∀ node resumeAt,
          ((Step.whatsApp ctx nodeId data next).run s w₀).1 ≠ .ok (.suspended node resumeAt)

/-- An execution that is parked for the next occurrence of a send time is woken in that window
exactly if the window is not in the second pass of times that the zone's clocks show twice. -/
theorem woken_iff {sendTime : String} {now : Stamp} {z : Zone} {tolerance : Amount} {w : Moment}
    (hz : z.Regular) (hskips : z.SkipsHoursOrDay) (htolerance : tolerance.UpToHalfDay)
    (hearly : 3 * day ≤ now.instant) (hlate : now.instant + 4 * day ≤ endOfTime)
    (h : SendWindow.next sendTime now z = .ok w) :
    Woken sendTime z tolerance w ↔ (z.readingAt w.instant).again = false := by
  constructor
  · intro hwoken
    exact SendWindow.first_of_parked hz hwoken.found
  · intro hfirst
    have hparked := SendWindow.parked_of_next hz hskips htolerance hearly hlate h hfirst
    refine ⟨hparked, ?_⟩
    intro σ s ctx nodeId data next span w₀ hzone htol hspan hrange hsendTime hparkedFor hnow _ hlast
    have hopen : Step.windowToAwait ctx data s.policy = .ok none := by
      have hisOpen := SendWindow.isOpen_of_parked hparked hspan hrange hnow hlast
      unfold Step.windowToAwait
      rw [hsendTime, hparkedFor, hzone, htol]
      dsimp only
      rw [hisOpen]
      rfl
    exact ⟨Step.run_whatsApp_of_open hopen nodeId next w₀,
      Step.whatsApp_goes_on hopen nodeId next w₀⟩

/-! ## The night on which clocks are put back -/

namespace HalfPastOne

def newYork : Zone := Zone.table[1]

/-- In the small hours of 3 November 2024 the clocks in New York show half past one at this time,
and again an hour later. -/
def firstPass : Int := Zone.utcInstant 2024 11 3 5 30

def secondPass : Int := firstPass + hour

/-- A reminder to be sent at half past one. -/
def reminder : WhatsAppData :=
  { WhatsAppData.blank with content := some "Good night", sendTime := some "01:30" }

/-- The reminder is run for a lead whose execution was parked until `nextRunAt`. -/
def context (nextRunAt now : Int) : StepContext where
  execution := ⟨"exec-1", "funnel-1", "lead-1", some "reminder", .waiting, .ahead nextRunAt 0, [],
    [], none⟩
  lead := ⟨"lead-1", "ada@example.com", "Ada", "+351 900 000 000", Lead.active, [], "new", none,
    none⟩
  now := .ahead now 0

/-- An execution that is parked in the first pass is woken in it. -/
theorem woken_in_first_pass :
    (newYork.Regular ∧ newYork.SkipsHoursOrDay ∧ (Amount.whole 60).UpToHalfDay ∧
      3 * day ≤ (Stamp.ahead (firstPass - 20 * minute) 0).instant ∧
      (Stamp.ahead (firstPass - 20 * minute) 0).instant + 4 * day ≤ endOfTime ∧
      SendWindow.next "01:30" (.ahead (firstPass - 20 * minute) 0) newYork
        = .ok (.ofInstant firstPass)) ∧
    Woken "01:30" newYork (.whole 60) (.ofInstant firstPass) := by
  have hz : newYork.Regular := by decide +kernel
  have hskips : newYork.SkipsHoursOrDay := by decide +kernel
  have htolerance : (Amount.whole 60).UpToHalfDay :=
    Amount.upToHalfDay_whole (by decide) (by decide)
  have hearly : 3 * day ≤ (Stamp.ahead (firstPass - 20 * minute) 0).instant := by decide +kernel
  have hlate : (Stamp.ahead (firstPass - 20 * minute) 0).instant + 4 * day ≤ endOfTime := by
    decide +kernel
  have hnext : SendWindow.next "01:30" (.ahead (firstPass - 20 * minute) 0) newYork
      = .ok (.ofInstant firstPass) := by rfl
  exact ⟨⟨hz, hskips, htolerance, hearly, hlate, hnext⟩,
    (woken_iff hz hskips htolerance hearly hlate hnext).mpr (by decide +kernel)⟩

/-- An execution that is parked in the second pass is parked again, for the next day, twenty seconds
after its window opened. -/
theorem parked_again :
    SendWindow.next "01:30" (.ahead (secondPass - 20 * minute) 0) newYork
        = .ok (.ofInstant secondPass) ∧
    SendWindow.parked "01:30" (.ahead secondPass 0) newYork (.whole 60) = .ok none ∧
    ((Step.whatsApp (context secondPass (secondPass + 20 * second)) "reminder" reminder none).run
      (.calm (.ahead secondPass 0) (.usual newYork 60)) (World.fresh ())).1
        = .ok (.suspended "reminder" (.ahead (secondPass + day) 0)) ∧
    ¬ Woken "01:30" newYork (.whole 60) (.ofInstant secondPass) := by
  have hparked :
      SendWindow.parked "01:30" (.ahead secondPass 0) newYork (.whole 60) = .ok none := by rfl
  refine ⟨by rfl, hparked, by rfl, fun h => ?_⟩
  have hfound := hparked.symm.trans h.found
  cases hfound

end HalfPastOne

end Nurture
