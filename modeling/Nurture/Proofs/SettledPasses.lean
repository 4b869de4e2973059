import Nurture.Proofs.Delays
import Nurture.Proofs.Occurrences
import Nurture.Proofs.UnhinderedPasses

/-!
  Passes at one instant settle

  A pass that lets no execution fail leaves each one that it drove ended, or parked until its own
  time or later. An execution that it parks until exactly its own time waits for a window that falls
  on it. The next pass at that time finds this window open (`SendWindow.lt_next_of_closed`), so what
  it parks it parks until later, over any path through the funnel. After two such passes nothing is
  due any more (`passes_settle`). One is not enough, as `LateAlert` shows.

  The zone of the windows has to be constant: where clocks are put back, a window may have passed.
  The clock that the time of the passes is read off need only go on. Where it is put back by more
  than an hour, an execution can be driven for ever (`Rewound`).
-/

namespace Nurture

/-! ## Amounts that are not below zero -/

namespace Calendar

/-- The number of units is not below zero. -/
def Amount.IsNonneg : Amount → Prop
  | whole n => 0 ≤ n
  | real x => Binary64.atMost (.finite false 0 Binary64.minExponent) x = true

instance : (a : Amount) → Decidable a.IsNonneg
  | .whole _ => inferInstanceAs (Decidable (_ ≤ _))
  | .real _ => inferInstanceAs (Decidable (_ = true))

namespace Span

theorem nearestInt_nonneg {num : Int} {den : Nat} (h : 0 ≤ num) : 0 ≤ nearestInt num den := by
  have hq : 0 ≤ num / den := Int.ediv_nonneg h (Int.natCast_nonneg den)
  unfold nearestInt
  dsimp only
  split
  · omega
  · exact hq

theorem split_zero (e : Int) : ∃ den, split 0 e = (0, 0, den) := by
  have hratio : (Binary64.ratio 0 e).1 = 0 := by
    unfold Binary64.ratio
    split
    · exact Nat.zero_mul _
    · rfl
  refine ⟨(Binary64.ratio 0 e).2, ?_⟩
  show ((Binary64.ratio 0 e).1 / (Binary64.ratio 0 e).2,
    (Binary64.ratio 0 e).1 % (Binary64.ratio 0 e).2, (Binary64.ratio 0 e).2) = _
  rw [hratio, Nat.zero_div, Nat.zero_mod]

theorem Total.count_nonneg {t t' : Total} {unit : Nat} {a : Amount} (ha : a.IsNonneg)
    (ht : 0 ≤ t.micros ∧ 0 ≤ t.num) (h : t.count unit a = .ok t') : 0 ≤ t'.micros ∧ 0 ≤ t'.num := by
  cases a with
  | whole n =>
    obtain rfl := Except.ok.inj h
    exact ⟨Int.add_nonneg ht.1 (Int.mul_nonneg ha (Int.natCast_nonneg unit)), ht.2⟩
  | real x =>
    cases x with
    | nan => cases h
    | infinity => cases h
    | finite negative m e =>
      have hsign : negative = true → m = 0 := by
        rintro rfl
        have hzero : ∀ k : Int, Binary64.value false 0 k = 0 := fun k => by simp [Binary64.value]
        have hle : Binary64.value false 0 Binary64.minExponent ≤ Binary64.value true m e :=
          Binary64.finiteAtMost_iff.mp ha
        rw [hzero, Binary64.value, if_pos rfl] at hle
        have hm : 0 ≤ -(m : ℚ) := nonneg_of_mul_nonneg_left hle (by positivity)
        exact_mod_cast le_antisymm (neg_nonneg.mp hm) (Nat.cast_nonneg m)
      unfold Total.count at h
      dsimp only at h
      cases negative with
      | false =>
        split at h
        · obtain rfl := Except.ok.inj h
          dsimp only
          rw [if_neg Bool.false_ne_true, if_neg Bool.false_ne_true]
          exact ⟨by have := ht.1; positivity, by have := ht.2; positivity⟩
        · cases h
      | true =>
        obtain rfl := hsign rfl
        obtain ⟨den, hsplit⟩ := split_zero e
        rw [hsplit] at h
        have hnearest : Binary64.nearest false (0 * unit) den
            = .finite false 0 Binary64.minExponent := by
          rw [Nat.zero_mul]
          rfl
        obtain ⟨den', hsplit'⟩ := split_zero Binary64.minExponent
        simp only [hnearest, hsplit'] at h
        obtain rfl := Except.ok.inj h
        simpa using ⟨ht.1, by have := ht.2; positivity⟩

end Span

theorem Amount.toSpan_nonneg {a : Amount} {span : Int} (ha : a.IsNonneg)
    (h : a.toSpan = .ok span) : 0 ≤ span := by
  cases a with
  | whole n =>
    rw [Amount.toSpan_whole h]
    exact Int.mul_nonneg ha (by decide)
  | real x =>
    obtain ⟨t, htotal, h⟩ := bind_eq_ok_iff.mp h
    obtain ⟨t', hcount, htotal⟩ := bind_eq_ok_iff.mp htotal
    obtain rfl := Except.ok.inj htotal
    obtain ⟨hmicros, hnum⟩ :=
      Span.Total.count_nonneg ha ⟨Int.le_refl 0, Int.le_refl 0⟩ hcount
    rw [Span.ofMicros_eq (mapError_eq_ok_iff.mp h)]
    exact Span.nearestInt_nonneg (by positivity)

end Calendar

/-! ## Windows in a constant zone -/

namespace SendWindow

open Calendar

variable {sendTime : String} {now scheduled : Stamp} {z : Zone} {offset : Int} {w : Moment}
  {tolerance grace : Amount}

theorem sameDay_unique {a b : Stamp} {shown shown' : Reading × Reading}
    (h : sameDay sendTime a z = .ok shown) (h' : sameDay sendTime b z = .ok shown')
    (heq : a.instant = b.instant) : shown = shown' := by
  obtain ⟨r, anchor⟩ := shown
  obtain ⟨r', anchor'⟩ := shown'
  obtain ⟨rfl, hours, minutes, hread, -, -, rfl⟩ := sameDay_eq_ok h
  obtain ⟨rfl, hours', minutes', hread', -, -, rfl⟩ := sameDay_eq_ok h'
  obtain ⟨rfl, rfl⟩ := Prod.mk.inj (Except.ok.inj (hread.symm.trans hread'))
  rw [heq]

/-- The next occurrence is today's, or it is tomorrow's and later than now. -/
theorem next_cases (hz : z.AheadBy offset) (h : next sendTime now z = .ok w) :
    ∃ r anchor, sameDay sendTime now z = .ok (r, anchor) ∧ r.wall = now.instant + offset ∧
      (w.instant = anchor.wall - offset ∧ now.instant ≤ w.instant ∨ now.instant < w.instant) := by
  obtain ⟨⟨r, anchor⟩, hsame, h⟩ := bind_eq_ok_iff.mp h
  obtain ⟨hr, hours, minutes, -, hhours, hminutes, hanchor⟩ := sameDay_eq_ok hsame
  obtain ⟨hle, hlt⟩ := timeOfDay_mem hhours hminutes
  have hwall : r.wall = now.instant + offset := by rw [hr, hz.readingAt_eq]
  have htoday : anchor.wall = midnight r.wall + (hours * hour + minutes * minute) := by
    rw [hanchor]
  refine ⟨r, anchor, hsame, hwall, ?_⟩
  dsimp only at h
  split at h
  · -- clocks show a later time already
    obtain ⟨r', hr', h⟩ := bind_eq_ok_iff.mp h
    rw [instant_of_momentOf (mapError_eq_ok_iff.mp h), hz.instantOf_eq, eq_of_daysLater hr']
    right
    dsimp only
    rw [midnight_eq] at htoday
    rw [day_eq] at *
    omega
  · rename_i hlate
    rw [instant_of_momentOf (mapError_eq_ok_iff.mp h), hz.instantOf_eq]
    left
    omega

theorem findWithin_cons_cases {anchor : Reading} {days : Int} {rest : List Int}
    {found : Option Moment} (hz : z.AheadBy offset) (haware : scheduled.isLocal = false)
    (h : findWithin anchor scheduled z tolerance (days :: rest) = .ok found) :
    ∃ m : Moment, m.instant = anchor.wall + days * day - offset ∧
      if tolerance.covers (m.instant - scheduled.instant) = true then found = some m
      else findWithin anchor scheduled z tolerance rest = .ok found := by
  have hsearch := h
  unfold findWithin at h
  obtain ⟨r, hr, h⟩ := bind_eq_ok_iff.mp h
  obtain ⟨m, hm, -⟩ := bind_eq_ok_iff.mp h
  rw [mapError_eq_ok_iff] at hm
  rw [findWithin_cons_of_ok haware hr hm] at hsearch
  refine ⟨m, ?_, ?_⟩
  · rw [instant_of_momentOf hm, hz.instantOf_eq, eq_of_daysLater hr]
  · split at hsearch
    · rename_i hcovers
      rw [if_pos hcovers]
      exact (Except.ok.inj hsearch).symm
    · rename_i hcovers
      rwa [if_neg hcovers]

/-- An execution that was parked until an occurrence sits on that occurrence, if no other is within
the tolerance. -/
theorem parked_on_occurrence (hz : z.AheadBy offset) (hon : tolerance.covers 0 = true)
    (hoff : tolerance.covers (-day) = false) (haware : scheduled.isLocal = false)
    {r anchor : Reading} (hsame : sameDay sendTime scheduled z = .ok (r, anchor))
    (hanchor : anchor.wall = scheduled.instant + offset) {found : Option Moment}
    (h : parked sendTime scheduled z tolerance = .ok found) :
    ∃ m, found = some m ∧ m.instant = scheduled.instant := by
  obtain ⟨shown, hshown, h⟩ := bind_eq_ok_iff.mp h
  obtain rfl := sameDay_unique hsame hshown rfl
  -- Yesterday's occurrence is a day away, and today's is the one.
  obtain ⟨yesterday, hyesterday, h⟩ := findWithin_cons_cases hz haware h
  have haway : yesterday.instant - scheduled.instant = -day := by omega
  rw [haway, hoff, if_neg Bool.false_ne_true] at h
  obtain ⟨today, htoday, h⟩ := findWithin_cons_cases hz haware h
  have hthere : today.instant - scheduled.instant = 0 := by omega
  rw [hthere, hon, if_pos rfl] at h
  exact ⟨today, h, by omega⟩

theorem le_next_of_aheadBy (hz : z.AheadBy offset) (h : next sendTime now z = .ok w) :
    now.instant ≤ w.instant := by
  obtain ⟨r, anchor, -, -, ⟨-, hle⟩ | hlt⟩ := next_cases hz h
  · exact hle
  · omega

/-- An execution that was parked until now and finds its window closed is parked until later. -/
theorem lt_next_of_closed (hz : z.AheadBy offset) (hon : tolerance.covers 0 = true)
    (hoff : tolerance.covers (-day) = false) (hgrace : grace.IsNonneg)
    (haware : scheduled.isLocal = false) (hscheduled : scheduled.instant = now.instant)
    (hclosed : isOpen sendTime scheduled now z tolerance grace = .ok false)
    (hnext : next sendTime now z = .ok w) : now.instant < w.instant := by
  obtain ⟨r, anchor, hsame, hr, ⟨htoday, hle⟩ | hlt⟩ := next_cases hz hnext
  · refine lt_of_le_of_ne hle fun hnow => ?_
    obtain ⟨found, hfound, hclosed⟩ := bind_eq_ok_iff.mp hclosed
    obtain ⟨shown, hshown, -⟩ := bind_eq_ok_iff.mp hfound
    obtain rfl := sameDay_unique hsame hshown hscheduled.symm
    -- If the next occurrence were now, the execution would sit on it, and it is not over.
    obtain ⟨m, rfl, hm⟩ := parked_on_occurrence hz hon hoff haware hshown (by omega) hfound
    obtain ⟨span, hspan, hclosed⟩ := bind_eq_ok_iff.mp hclosed
    obtain ⟨last, hlast, hclosed⟩ := bind_eq_ok_iff.mp hclosed
    have hnonneg := Amount.toSpan_nonneg hgrace (mapError_eq_ok_iff.mp hspan)
    have hinstant := Moment.instant_of_add (mapError_eq_ok_iff.mp hlast)
    split at hclosed
    · cases hclosed
    · have hover := of_decide_eq_false (Except.ok.inj hclosed)
      omega
  · exact hlt

end SendWindow

/-! ## Steps -/

/-- Rules in a constant zone, with the usual tolerance, under which no message is late for its
window at once. -/
structure Policy.Settling (policy : Policy) : Prop where
  wellFormed : policy.zone.WellFormed
  isConstant : policy.zone.IsConstant
  tolerance_eq : policy.tolerance = .whole Settings.tolerance
  grace_nonneg : policy.grace.IsNonneg

namespace Step

variable {ctx : StepContext} {policy : Policy} {n : Node} {node : String}
  {resumeAt : Calendar.Stamp}

/-- An execution is parked until now at the earliest, and until later if it was parked until
now. -/
theorem Waits.settling (hp : policy.Settling) (hgoes : ctx.now.GoesOn)
    (haware : ctx.execution.nextRunAt.isLocal = false)
    (h : Waits ctx policy n node resumeAt) : ctx.now.instant ≤ resumeAt.instant ∧
      (ctx.execution.nextRunAt.instant = ctx.now.instant → ctx.now.instant < resumeAt.instant) := by
  cases h with
  | delay hdelays hspan hadd =>
    have hlt := hgoes _ _ (hour_le_of_delayHours hspan) hadd
    exact ⟨Int.le_of_lt hlt, fun _ => hlt⟩
  | @window data next sendTime w htask hwindow =>
    obtain ⟨offset, hz⟩ := Calendar.Zone.exists_aheadBy hp.wellFormed hp.isConstant
    obtain ⟨hclosed, hnext⟩ := windowToAwait_eq_some hwindow
    rw [Calendar.Stamp.instant_toStamp]
    refine ⟨SendWindow.le_next_of_aheadBy hz hnext, fun hscheduled => ?_⟩
    have hon : policy.tolerance.covers 0 = true := by
      rw [hp.tolerance_eq]
      decide
    have hoff : policy.tolerance.covers (-Calendar.day) = false := by
      rw [hp.tolerance_eq]
      decide
    exact SendWindow.lt_next_of_closed hz hon hoff hp.grace_nonneg haware hscheduled hclosed hnext

end Step

/-! ## One pass -/

variable {σ : Type} {s : Surroundings σ} {now : Calendar.Stamp} {r r' : ExecutionRow}
  {rows : List FunnelRow} {visits : List Visit}

namespace Proceeded

theorem parked_of_waiting (h : Proceeded s now rows r visits r') (hne : r' ≠ r)
    (hwaits : r'.status = Status.waiting.name) :
    ∃ e lead n node resumeAt history, r.load = .ok e ∧
      Step.Waits ⟨e, lead, now⟩ s.policy n node resumeAt ∧
      r' = r.parkedAt node resumeAt.instant history := by
  have hnot : ∀ history, (r.ended history).status ≠ Status.waiting.name := by
    intro history
    show Status.completed.name ≠ Status.waiting.name
    decide
  cases h with
  | idle => exact absurd rfl hne
  | orphaned => exact absurd hwaits (hnot _)
  | walked hdue hload hrow hid hf hwalked htrail hsettled =>
    cases hsettled with
    | broke | failed | refused | answered => exact absurd rfl hne
    | ended => exact absurd hwaits (hnot _)
    | parked =>
      cases hwalked with
      | unparked j passed h => exact absurd rfl (h _ _ _)
      | parked passed hn h => exact ⟨_, _, _, _, _, _, hload, h, rfl⟩

theorem settling (hp : s.policy.Settling) (hgoes : now.GoesOn)
    (h : Proceeded s now rows r visits r') (hne : r' ≠ r)
    (hwaits : r'.status = Status.waiting.name) :
    now.instant ≤ r'.nextRunAt ∧ (r.nextRunAt = now.instant → now.instant < r'.nextRunAt) := by
  obtain ⟨e, lead, n, node, resumeAt, history, hload, hparked, rfl⟩ :=
    h.parked_of_waiting hne hwaits
  obtain ⟨status, held, -, -, rfl⟩ := ExecutionRow.load_eq_ok_iff.mp hload
  have hinstant : (r.toExecution status held).nextRunAt.instant = r.nextRunAt := Int.sub_zero _
  obtain ⟨hle, hlt⟩ := hparked.settling hp hgoes rfl
  rw [hinstant] at hlt
  exact ⟨hle, hlt⟩

theorem loads (h : Proceeded s now rows r visits r') (hwaits : r'.status = Status.waiting.name)
    (hr : r.status = Status.waiting.name → ∃ e, r.load = .ok e) : ∃ e, r'.load = .ok e := by
  by_cases hsame : r' = r
  · subst hsame
    exact hr hwaits
  · obtain ⟨e, lead, n, node, resumeAt, history, -, -, rfl⟩ := h.parked_of_waiting hsame hwaits
    have hstatus : r.status = Status.waiting.name := hwaits
    exact ⟨_, ExecutionRow.load_parkedAt hstatus _ _ _⟩

end Proceeded

/-! ## Passes -/

theorem ExactReport.ne_of_due {db db' : Database} {report : PassReport}
    {g : ExecutionRow → ExecutionRow} (h : ExactReport now db report g db')
    (hnone : report.failed = 0) (hr : r ∈ db.due now) : g r ≠ r := by
  have hcount := h.failed
  rw [hnone, eq_comm, Int.natCast_eq_zero] at hcount
  simpa using List.countP_eq_zero.mp hcount r hr

namespace PassRun

variable {p : PassRun σ}

theorem keyed_after (hk : p.before.database.Keyed) : p.after.database.Keyed :=
  ((processExecutions_droveSome hk).rows hk).1

theorem exists_rowBefore (hk : p.before.database.Keyed)
    (hr' : r' ∈ p.after.database.executions) :
    ∃ r ∈ p.before.database.executions, p.rowBefore r'.id = some r ∧ ∃ visits,
      Proceeded p.surroundings p.now p.before.database.funnels r visits r' := by
  have hafter : p.rowAfter r'.id = some r' := Database.Keyed.find?_id (keyed_after hk) hr'
  rcases proceeded hk r'.id with ⟨-, hnone, -⟩ | ⟨r, r₁, hbefore, hafter', hproceeded⟩
  · rw [hafter] at hnone
    cases hnone
  · obtain rfl := Option.some.inj (hafter.symm.trans hafter')
    exact ⟨r, (mem_of_rowBefore hbefore).1, hbefore, _, hproceeded⟩

theorem loadable_after (hk : p.before.database.Keyed) (hl : p.before.database.Loadable) :
    p.after.database.Loadable := by
  have hdrove : DroveSome p.surroundings p.now p.before.database p.after.database :=
    processExecutions_droveSome hk
  obtain ⟨-, g, hdb, -⟩ := hdrove.rows hk
  have hfunnels : p.after.database.funnels = p.before.database.funnels := congrArg (·.funnels) hdb
  have hleads : p.after.database.leads = p.before.database.leads := congrArg (·.leads) hdb
  refine ⟨fun r' hr' hwaits => ?_, fun r hr => hl.funnels r (hfunnels ▸ hr),
    fun r hr => hl.leads r (hleads ▸ hr)⟩
  obtain ⟨r, hr, -, visits, hproceeded⟩ := exists_rowBefore hk hr'
  exact hproceeded.loads hwaits (hl.executions r hr)

/-- The pass returns a report that counts no execution as failed. -/
def NoneFails (p : PassRun σ) : Prop :=
  ∃ report, ((processExecutions p.now).run p.surroundings p.before).1 = .ok report ∧
    report.failed = 0

section
variable (hk : p.before.database.Keyed) (hl : p.before.database.Loadable)
  (hs : Steady p.surroundings)
include hl hs

theorem not_waiting_of_local (hlocal : p.now.isLocal = true) (h : p.NoneFails) :
    ∀ r ∈ p.before.database.executions, r.status ≠ Status.waiting.name := by
  intro r hr hwaits
  obtain ⟨report, hrun, -⟩ := h
  rw [processExecutions_local hl hs hlocal hr hwaits] at hrun
  cases hrun

include hk

theorem NoneFails.recorded (h : p.NoneFails) {id : String} (hr : p.rowBefore id = some r)
    (hdue : r.isDue p.now = true) : p.Recorded id := by
  obtain ⟨hmem, -⟩ := mem_of_rowBefore hr
  cases hlocal : p.now.isLocal with
  | true =>
    have hwaits := (ExecutionRow.isDue_eq_true_iff.mp hdue).1
    exact absurd hwaits (not_waiting_of_local hl hs hlocal h r hmem)
  | false =>
    obtain ⟨report, w', g, hrun, hexact⟩ := processExecutions_exact hk hl hs hlocal
    obtain ⟨report', hreport, hnone⟩ := h
    rw [hrun] at hreport
    obtain rfl := Except.ok.inj hreport
    have hafter : p.after.database = w'.database := by rw [after, hrun]
    rw [← hafter] at hexact
    intro hsame
    rw [hexact.rowAfter_eq, hr] at hsame
    exact hexact.ne_of_due hnone (Database.mem_due.mpr ⟨hmem, hdue⟩) (Option.some.inj hsame)

/-- After such a pass every execution waits until its time at the earliest, and until later if all
of them did so before. -/
theorem NoneFails.settling (h : p.NoneFails) (hp : p.surroundings.policy.Settling)
    (hgoes : p.now.GoesOn) :
    ∀ r' ∈ p.after.database.executions, r'.status = Status.waiting.name →
      p.now.instant ≤ r'.nextRunAt ∧
      ((∀ r ∈ p.before.database.executions, r.status = Status.waiting.name →
        p.now.instant ≤ r.nextRunAt) → p.now.instant < r'.nextRunAt) := by
  intro r' hr' hwaits
  obtain ⟨r, hr, hbefore, visits, hproceeded⟩ := exists_rowBefore hk hr'
  have hafter : p.rowAfter r'.id = some r' := Database.Keyed.find?_id (keyed_after hk) hr'
  by_cases hsame : r' = r
  · -- the row was not due
    subst hsame
    have hnot : ¬ r'.isDue p.now = true := fun hdue =>
      h.recorded hk hl hs hbefore hdue (hafter.trans hbefore.symm)
    rw [ExecutionRow.isDue_eq_true_iff, not_and, Int.not_le] at hnot
    have hlater := hnot hwaits
    exact ⟨Int.le_of_lt hlater, fun _ => hlater⟩
  · obtain ⟨hwaited, htime⟩ :=
      ExecutionRow.isDue_eq_true_iff.mp (hproceeded.isDue (.inr hsame))
    obtain ⟨hle, hlt⟩ := hproceeded.settling hp hgoes hsame hwaits
    exact ⟨hle, fun hall => hlt (Int.le_antisymm htime (hall r hr hwaited))⟩

omit hk

/-- A pass that finds nothing due reports so, and nothing becomes of the world. -/
theorem run_idle (hidle : ∀ r ∈ p.before.database.executions, r.isDue p.now = false)
    (hlocal : p.now.isLocal = true →
      ∀ r ∈ p.before.database.executions, r.status ≠ Status.waiting.name) :
    ∃ o, (processExecutions p.now).run p.surroundings p.before
      = (.ok .empty, { p.before with outside := o }) := by
  obtain ⟨waiting, o, hlist, hload⟩ := run_listWaiting hl hs
  have hdue : dueAt p.now waiting = .ok [] := by
    cases hknown : p.now.isLocal with
    | false =>
      have hnone : p.before.database.waitingRows.filter (·.isDue p.now) = [] := by
        rw [List.filter_eq_nil_iff]
        intro r hr
        rw [hidle r (Database.mem_waitingRows.mp hr).1]
        exact Bool.false_ne_true
      have hfilter : Loads [] (waiting.filter (·.isDue p.now)) := hnone ▸ hload.due
      rw [dueAt_of_known hknown, List.forall₂_nil_left_iff.mp hfilter]
    | true =>
      have hnone : p.before.database.waitingRows = [] := by
        refine List.eq_nil_iff_forall_not_mem.mpr fun r hr => ?_
        obtain ⟨hmem, hwaits⟩ := Database.mem_waitingRows.mp hr
        exact hlocal hknown r hmem hwaits
      rw [hnone] at hload
      rw [List.forall₂_nil_left_iff.mp hload]
      unfold dueAt
      rw [List.any_nil, Bool.and_false]
      rfl
  have hread : (readDue p.now).run p.surroundings p.before
      = (.ok ([], [], []), { p.before with outside := o }) := by
    unfold readDue
    rw [Action.run_bind_ok hlist, Reply.records_own,
      Action.run_bind_ok (Action.run_ofExcept _ _ _), hdue,
      Action.run_bind_ok (Action.run_ofExcept _ _ _)]
    rfl
  exact ⟨o, by rw [processExecutions_eq, Action.run_bind_ok hread]; rfl⟩

end

end PassRun

/-- Passes at one time settle if its clock goes on: if in two passes one after the other no
execution fails, then no execution is due any more, and a third pass reports so and does nothing. -/
theorem passes_settle {first second third : PassRun σ} (hgoes : now.GoesOn)
    (hk : first.before.database.Keyed) (hl : first.before.database.Loadable)
    (hpasses : ∀ p ∈ [first, second, third],
      Steady p.surroundings ∧ p.surroundings.policy.Settling ∧ p.now = now)
    (hsecond : second.before = first.after) (hthird : third.before = second.after)
    (hfirst : first.NoneFails) (hnone : second.NoneFails) :
    (∀ r ∈ third.before.database.executions, r.status = Status.waiting.name →
      now.instant < r.nextRunAt) ∧
    ∃ o, (processExecutions now).run third.surroundings third.before
      = (.ok .empty, { third.before with outside := o }) := by
  obtain ⟨hs₁, hp₁, rfl⟩ := hpasses first (by simp)
  obtain ⟨hs₂, hp₂, hnow₂⟩ := hpasses second (by simp)
  obtain ⟨hs₃, -, hnow₃⟩ := hpasses third (by simp)
  have hk₂ : second.before.database.Keyed := hsecond ▸ first.keyed_after hk
  have hl₂ : second.before.database.Loadable := hsecond ▸ first.loadable_after hk hl
  have hl₃ : third.before.database.Loadable := hthird ▸ second.loadable_after hk₂ hl₂
  have hle : ∀ r ∈ second.before.database.executions, r.status = Status.waiting.name →
      second.now.instant ≤ r.nextRunAt := by
    rw [hsecond, hnow₂]
    exact fun r hr hwaits => (hfirst.settling hk hl hs₁ hp₁ hgoes r hr hwaits).1
  have hlt : ∀ r ∈ third.before.database.executions, r.status = Status.waiting.name →
      first.now.instant < r.nextRunAt := by
    rw [hthird, ← hnow₂]
    exact fun r hr hwaits => (hnone.settling hk₂ hl₂ hs₂ hp₂ (hnow₂ ▸ hgoes) r hr hwaits).2 hle
  refine ⟨hlt, ?_⟩
  rw [← hnow₃]
  refine third.run_idle hl₃ hs₃ (fun r hr => ?_) fun hlocal r hr => ?_
  · rw [← Bool.not_eq_true, ExecutionRow.isDue_eq_true_iff, hnow₃]
    rintro ⟨hwaits, htime⟩
    exact absurd htime (Int.not_le.mpr (hlt r hr hwaits))
  · -- at such a time the second pass returned since no execution waits
    have hlocal₂ : second.now.isLocal = true := by rw [hnow₂, ← hnow₃, hlocal]
    have hsame := (PassRun.idle_of_local hs₂ hk₂ hl₂ hlocal₂).1
    rw [hthird, hsame] at hr
    exact PassRun.not_waiting_of_local hl₂ hs₂ hlocal₂ hnone r hr

namespace LateAlert

open MidnightAlert (funnel row load_row load_funnel)

def midnight : Int := Calendar.Zone.utcInstant 2025 3 2 0 0

/-- The lead can be called. -/
def leadRow : LeadRow := { MidnightAlert.leadRow with phone := "+351 900 000 000" }

/-- The execution has been due for an hour. -/
def world : World Unit :=
  { World.fresh () with
    database := ⟨[funnel.toRow 0], [row (midnight - Calendar.hour)], [leadRow], []⟩ }

def pass (w : World Unit) : PassRun Unit :=
  ⟨.calm (.ahead midnight 0) (.usual .utc 2), .ahead midnight 0, w⟩

/-- The message waits for midnight, -/
def first : PassRun Unit := pass world

/-- it is sent, -/
def second : PassRun Unit := pass first.after

/-- and nothing is left to do. -/
def third : PassRun Unit := pass second.after

theorem world_loadable : world.database.Loadable where
  executions := by
    intro r hr _
    obtain rfl := List.mem_singleton.mp hr
    exact ⟨_, load_row _⟩
  funnels := by
    intro r hr
    obtain rfl := List.mem_singleton.mp hr
    exact ⟨_, load_funnel⟩
  leads := by
    intro r hr
    obtain rfl := List.mem_singleton.mp hr
    exact ⟨_, rfl⟩

theorem usual_settling : (Policy.usual .utc 2).Settling where
  wellFormed := trivial
  isConstant _ _ := rfl
  tolerance_eq := rfl
  grace_nonneg := by decide

theorem noneFails_of {p : PassRun Unit}
    (h : ((processExecutions p.now).run p.surroundings p.before).1.toOption.map (·.failed)
      = some 0) : p.NoneFails := by
  cases hrun : ((processExecutions p.now).run p.surroundings p.before).1 with
  | error e =>
    rw [hrun] at h
    cases h
  | ok report =>
    rw [hrun] at h
    exact ⟨report, hrun, Option.some.inj h⟩

/-- At midnight the message is parked until midnight, and then it is sent; a third pass finds
nothing to do. -/
theorem sent_in_second_pass :
    ((Calendar.Stamp.ahead midnight 0).GoesOn ∧ world.database.Keyed ∧ world.database.Loadable ∧
      first.NoneFails ∧ second.NoneFails ∧
      ∀ p ∈ [first, second, third], Steady p.surroundings ∧
        p.surroundings.policy.Settling ∧ p.now = .ahead midnight 0) ∧
    first.after.database.executions.map (fun r => (r.status, r.nextRunAt))
      = [(Status.waiting.name, midnight)] ∧
    second.after.attempts = [⟨.whatsApp leadRow.phone Step.plainTextOnly [] "Launch", false⟩] ∧
    ∃ o, (processExecutions (.ahead midnight 0)).run third.surroundings third.before
      = (.ok .empty, { third.before with outside := o }) := by
  have hgoes : (Calendar.Stamp.ahead midnight 0).GoesOn := Calendar.Stamp.IsFixed.goesOn trivial
  have hk : world.database.Keyed := ⟨by decide, by decide⟩
  have hfirst : first.NoneFails := noneFails_of (by decide +kernel)
  have hsecond : second.NoneFails := noneFails_of (by decide +kernel)
  have hpasses : ∀ p ∈ [first, second, third], Steady p.surroundings ∧
      p.surroundings.policy.Settling ∧ p.now = .ahead midnight 0 := by
    have hpass : ∀ w, Steady (pass w).surroundings ∧ (pass w).surroundings.policy.Settling ∧
        (pass w).now = .ahead midnight 0 := fun w =>
      ⟨Surroundings.calm_steady, usual_settling, rfl⟩
    rw [List.forall_mem_cons, List.forall_mem_cons, List.forall_mem_singleton]
    exact ⟨hpass _, hpass _, hpass _⟩
  refine ⟨⟨hgoes, hk, world_loadable, hfirst, hsecond, hpasses⟩, by decide +kernel,
    by decide +kernel, ?_⟩
  exact (passes_settle hgoes hk world_loadable hpasses rfl rfl hfirst hsecond).2

end LateAlert

namespace Rewound

open Newsletter (funnel row lead load_row)

/-- At three o'clock of a night in October 2023, the clocks of Troll were put back by two hours. -/
def troll : Calendar.Zone :=
  .regional "Antarctica/Troll" 0
    [⟨Calendar.Zone.utcInstant 2023 3 26 1 0, 2 * Calendar.hour⟩,
     ⟨Calendar.Zone.utcInstant 2023 10 29 1 0, 0⟩]

/-- Half past one of that night, for the second time. -/
def halfPastOne : Calendar.Stamp := .shown troll (Calendar.Zone.utcInstant 2023 10 29 1 30)

def leadRow : LeadRow :=
  ⟨lead.id, lead.email, lead.name, lead.phone, lead.status, [], lead.stage, none, 0⟩

/-- The execution has been due for years. -/
def world : World Unit :=
  { World.fresh () with database := ⟨[funnel.toRow 0], [row], [leadRow], []⟩ }

def pass (now : Calendar.Stamp) (w : World Unit) : PassRun Unit :=
  ⟨.calm now (.usual .utc 2), now, w⟩

def first (now : Calendar.Stamp) : PassRun Unit := pass now world

def second (now : Calendar.Stamp) : PassRun Unit := pass now (first now).after

def third (now : Calendar.Stamp) : PassRun Unit := pass now (second now).after

theorem world_loadable : world.database.Loadable where
  executions := by
    intro r hr _
    obtain rfl := List.mem_singleton.mp hr
    exact ⟨_, load_row⟩
  funnels := by
    intro r hr
    obtain rfl := List.mem_singleton.mp hr
    exact ⟨_, rfl⟩
  leads := by
    intro r hr
    obtain rfl := List.mem_singleton.mp hr
    exact ⟨_, rfl⟩

/-- An hour after half past one it is half past two, for the first time: an hour before. So each
pass sends the letter, and the execution stays due. At a time that cannot be compared no execution
fails either, and there is no report. -/
theorem due_for_ever :
    (world.database.Keyed ∧ world.database.Loadable ∧
      (Policy.usual .utc 2).Settling ∧ (first halfPastOne).NoneFails ∧
      (second halfPastOne).NoneFails) ∧
    (third halfPastOne).before.database.executions.map (fun r => (r.status, r.nextRunAt))
      = [(Status.waiting.name, halfPastOne.instant - Calendar.hour)] ∧
    (third halfPastOne).before.attempts.length = 2 ∧
    (third halfPastOne).after.attempts.length = 3 ∧
    ∀ p ∈ [first (.floating 0), second (.floating 0), third (.floating 0)],
      p.before.database = world.database ∧ ((processExecutions p.now).run p.surroundings p.before).1
        = .error (.unrelated .compared) := by
  have hfirst : (first halfPastOne).NoneFails := LateAlert.noneFails_of (by decide +kernel)
  have hsecond : (second halfPastOne).NoneFails := LateAlert.noneFails_of (by decide +kernel)
  refine ⟨⟨⟨by decide, by decide⟩, world_loadable, LateAlert.usual_settling, hfirst, hsecond⟩,
    by decide +kernel, by decide +kernel, by decide +kernel, ?_⟩
  have hrefused : ∀ w : World Unit, w.database = world.database →
      (pass (.floating 0) w).after.database = world.database ∧
        ((processExecutions (.floating 0)).run (pass (.floating 0) w).surroundings w).1
          = .error (.unrelated .compared) := by
    intro w hw
    have hk : w.database.Keyed := hw ▸ ⟨by decide, by decide⟩
    have hl : w.database.Loadable := hw ▸ world_loadable
    have hr : row ∈ w.database.executions := by
      rw [hw]
      exact List.mem_singleton_self row
    have hidle :=
      PassRun.idle_of_local (p := pass (.floating 0) w) Surroundings.calm_steady hk hl rfl
    exact ⟨hidle.1.trans hw, processExecutions_local hl Surroundings.calm_steady rfl hr rfl⟩
  have hsecond' := hrefused world rfl
  have hthird' := hrefused _ hsecond'.1
  rw [List.forall_mem_cons, List.forall_mem_cons, List.forall_mem_singleton]
  exact ⟨⟨rfl, hsecond'.2⟩, ⟨hsecond'.1, hthird'.2⟩, hthird'.1, (hrefused _ hthird'.1).2⟩

end Rewound

end Nurture
