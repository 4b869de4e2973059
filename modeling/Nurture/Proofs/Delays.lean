import Nurture.Proofs.ClocksPutBack
import Nurture.Proofs.Courses
import Nurture.Proofs.PassReport
import Nurture.Proofs.PassRows
import Nurture.Settings

/-!
  Delays

  A delay that parks an execution keeps it parked: until the time is up no pass runs a node for it
  or writes its row, and the first node that is run then is the one after the delay
  (`delays_last`). Passes may come in any order of times. The bound is lost only where a message
  is parked for a window that has passed, in zones whose clocks do not keep dates. A time that
  cannot be written leaves the execution where it is, and the pass counts it as failed.
-/

namespace Nurture

variable {σ : Type} {s : Surroundings σ} {f : Funnel} {ctx : StepContext} {now : Calendar.Stamp}
  {r r' : ExecutionRow} {visits : List Visit} {v : Visit} {data : DelayData} {node : String}

namespace Calendar

/-- The time so many hours later can be written: as the clock shows it, and as a UTC clock does. -/
def Stamp.Admits (now : Stamp) (hours : Nat) : Prop :=
  inRange (now.wall + hours * hour) = true ∧ inRange (now.plus (hours * hour)).instant = true

theorem Stamp.admits_of_add {now resumeAt : Stamp} {hours : Nat} {span : Int} {m : Moment}
    (hspan : Span.ofHours hours = .ok span) (hadd : now.add span = .ok resumeAt)
    (hm : resumeAt.toUtc = .ok m) : now.Admits hours := by
  rw [Span.ofHours_eq hspan] at hadd
  have hplus := eq_plus_of_add hadd
  have hwall : inRange (now.wall + hours * hour) = true := by
    unfold add at hadd
    split at hadd
    · assumption
    · cases hadd
  refine ⟨hwall, ?_⟩
  rw [← hplus]
  unfold toUtc Moment.toUtc at hm
  split at hm
  · -- the clock shows UTC
    rename_i hutc
    have hsame : resumeAt.instant = resumeAt.wall := by
      have hoffset : resumeAt.offset.getD 0 = 0 := hutc
      rw [instant, hoffset, Int.sub_zero]
    rw [hsame, hplus, wall_plus]
    exact hwall
  · split at hm
    · rename_i hin
      exact hin
    · cases hm

theorem Stamp.Admits.add {now : Stamp} {hours : Nat} {span : Int} (h : now.Admits hours)
    (hspan : Span.ofHours hours = .ok span) :
    now.add span = .ok (now.plus span) ∧ ∃ m, (now.plus span).toUtc = .ok m := by
  obtain rfl := Span.ofHours_eq hspan
  refine ⟨if_pos h.1, ?_⟩
  unfold toUtc Moment.toUtc
  split
  · exact ⟨_, rfl⟩
  · rw [instant_toMoment, if_pos h.2]
    exact ⟨_, rfl⟩

end Calendar

/-! ## One pass -/

/-- A delay is the last node of a trail: it breaks, or the execution is parked by it. -/
theorem Trail.of_delays {policy : Policy} {start : Option String}
    {outcome : Except Failure Journey} (ht : Trail f ctx policy start visits outcome)
    (hv : v ∈ visits) (hn : Step.Delays v.node data node) :
    (∃ cause, outcome = .error cause) ∨ ∃ span resumeAt,
      Calendar.Span.ofHours (Step.delayHours policy data) = .ok span ∧
      ctx.now.add span = .ok resumeAt ∧ outcome = .ok (.parked v.node node resumeAt) := by
  induction ht with
  | stopped => cases hv
  | failed hid hfound hcame =>
    obtain rfl := List.mem_singleton.mp hv
    obtain ⟨-, ⟨cause, h⟩ | ⟨span, resumeAt, -, -, h⟩⟩ := hcame.of_delays hn <;> cases h
  | broke => exact .inl ⟨_, rfl⟩
  | parked hid hfound hcame =>
    obtain rfl := List.mem_singleton.mp hv
    obtain ⟨-, ⟨cause, h⟩ | ⟨span, resumeAt, hspan, hadd, h⟩⟩ := hcame.of_delays hn
    · cases h
    · cases h
      exact .inr ⟨span, _, hspan, hadd, rfl⟩
  | step hid hfound hcame ht ih =>
    rcases List.mem_cons.mp hv with rfl | hv
    · obtain ⟨-, ⟨cause, h⟩ | ⟨span, resumeAt, -, -, h⟩⟩ := hcame.of_delays hn <;> cases h
    · exact ih hv

/-- Until when the delay parks an execution that is driven at the time. -/
def Step.resumption (policy : Policy) (now : Calendar.Stamp) (data : DelayData) : Int :=
  (now.plus (Step.delayHours policy data * Calendar.hour)).instant

section
variable {rows : List FunnelRow} (h : Proceeded s now rows r visits r')
include h

/-- A row whose execution runs a delay is parked behind it, or let alone. -/
theorem Proceeded.of_delays (hv : v ∈ visits) (hn : Step.Delays v.node data node) :
    r' = r ∨ now.Admits (Step.delayHours s.policy data) ∧ ∃ history,
      r' = r.parkedAt node (Step.resumption s.policy now data) history := by
  cases h with
  | idle => cases hv
  | orphaned => cases hv
  | @walked row f e lead _ outcome answer _ hdue hload hrow hid hf hwalked htrail hsettled =>
    rcases htrail.of_delays hv hn with ⟨cause, hbroke⟩ | ⟨span, resumeAt, hspan, hadd, hparked⟩
    · -- the walk broke off, so nothing was written
      cases hsettled with
      | broke => exact .inl rfl
      | failed | refused | answered | ended | parked => cases hbroke
    · cases hsettled with
      | broke => cases hparked
      | failed => cases hparked
      | refused | answered => exact .inl rfl
      | ended hj =>
        cases hparked
        cases hj
      | parked history htime =>
        cases hparked
        obtain ⟨m, hm⟩ := htime
        refine .inr ⟨Calendar.Stamp.admits_of_add hspan hadd hm,
          history ++ [suspendedEntry v.node resumeAt now], ?_⟩
        rw [Step.resumption, ← Calendar.Span.ofHours_eq hspan, ← Calendar.Stamp.eq_plus_of_add hadd]

theorem Proceeded.isDue (hdriven : visits ≠ [] ∨ r' ≠ r) : r.isDue now = true := by
  cases h with
  | idle => simp at hdriven
  | orphaned hdue => exact hdue
  | walked hdue => exact hdue

theorem Proceeded.head (hv : visits.head? = some v) :
    reference r.currentNodeId = some v.node.id := by
  cases h with
  | idle => cases hv
  | orphaned => cases hv
  | walked hdue hload hrow hid hf hwalked htrail => exact htrail.head v hv

end

/-! ## The passes of a run -/

namespace PassRun

variable {p : PassRun σ} {id : String}

theorem mem_of_rowBefore (h : p.rowBefore id = some r) :
    r ∈ p.before.database.executions ∧ r.id = id :=
  ⟨List.mem_of_find?_eq_some h, by simpa using List.find?_some h⟩

/-- Until when a delay parks an execution in the pass. -/
def resumption (p : PassRun σ) (data : DelayData) : Int :=
  Step.resumption p.surroundings.policy p.now data

section
variable (hk : p.before.database.Keyed)
include hk

theorem delays (hv : v ∈ p.visits id) (hn : Step.Delays v.node data node)
    (hrecorded : p.Recorded id) :
    p.now.Admits (Step.delayHours p.surroundings.policy data) ∧
      ∃ r history, p.rowBefore id = some r ∧ r.status = Status.waiting.name ∧
        p.rowAfter id = some (r.parkedAt node (p.resumption data) history) := by
  rcases proceeded hk id with ⟨-, -, hnone⟩ | ⟨r, r', hbefore, hafter, hproceeded⟩
  · rw [hnone] at hv
    cases hv
  · rcases hproceeded.of_delays hv hn with rfl | ⟨hadmits, history, rfl⟩
    · exact absurd (hafter.trans hbefore.symm) hrecorded
    · have hdue := hproceeded.isDue (.inl (List.ne_nil_of_mem hv))
      exact ⟨hadmits, r, history, hbefore, (ExecutionRow.isDue_eq_true_iff.mp hdue).1, hafter⟩

theorem due_of_driven (hdriven : p.visits id ≠ [] ∨ p.Recorded id) :
    ∃ r, p.rowBefore id = some r ∧ r ∈ p.before.database.due p.now := by
  rcases proceeded hk id with ⟨hbefore, hafter, hnone⟩ | ⟨r, r', hbefore, hafter, hproceeded⟩
  · exact absurd hdriven (by simp [hnone, Recorded, hbefore, hafter])
  · have hmoved : p.visits id ≠ [] ∨ r' ≠ r := hdriven.imp_right fun hrecorded heq =>
      hrecorded (by rw [hafter, hbefore, heq])
    exact ⟨r, hbefore, Database.mem_due.mpr ⟨(mem_of_rowBefore hbefore).1, hproceeded.isDue hmoved⟩⟩

theorem exactReport (hs : ¬ Answered p.surroundings) (hvisits : p.visits id ≠ []) :
    ∃ report g, ((processExecutions p.now).run p.surroundings p.before).1 = .ok report ∧
      ExactReport p.now p.before.database report g p.after.database := by
  unfold visits passLog at hvisits
  rcases hread : (readDue p.now).run p.surroundings p.before with ⟨e | ⟨due, funnels, leads⟩, w₁⟩
  · rw [hread] at hvisits
    exact absurd rfl hvisits
  · rw [hread] at hvisits
    have hne : due ≠ [] := by
      rintro rfl
      exact hvisits rfl
    obtain ⟨rows, hload, hperm⟩ := (readDue_reads hk hread).all hne
    obtain ⟨answers, g, w', hrun, -, hpassed⟩ :=
      run_processExecutions_of_reads hk hread hload hperm
    refine ⟨_, g, by rw [hrun], ?_⟩
    rw [after, hrun]
    exact hpassed.exactReport hk hs hperm

end

end PassRun

theorem Move.keeps_row {m : Move σ} {id : String} (hm : m.Legal)
    (hrow : (m.before.database.executions.find? fun r => r.id == id) = some r)
    (hs : ∀ run, m = .pass run → ¬ run.Recorded id) :
    (m.after.database.executions.find? fun r => r.id == id) = some r := by
  cases m with
  | idle w w' =>
    have hexecutions : w'.database.executions = w.database.executions :=
      World.Spares.executions_eq hm
    exact hexecutions ▸ hrow
  | start s trigger lead context w =>
    obtain ⟨-, -, news, -, -, hadds, -⟩ :=
      (triggerFunnels_starts (s := s) trigger lead context w).starts
    have hexecutions : (start s trigger lead context w).after.database.executions
        = w.database.executions ++ news := congrArg (·.executions) hadds.database_eq
    have hfound : (w.database.executions.find? fun r => r.id == id) = some r := hrow
    rw [hexecutions, List.find?_append, hfound]
    rfl
  | pass run => exact (not_not.mp (hs run rfl)).trans hrow

/-- What a delay that parked an execution in a pass promises of the moves after the pass. -/
structure DelayHolds (id node : String) (resumeAt : Int) (row : Option ExecutionRow)
    (later : List (Move σ)) : Prop where
  /-- The execution waits for the time at the node after the delay. -/
  parked : ∃ r, row = some r ∧ r.status = Status.waiting.name ∧ r.currentNodeId = some node ∧
    r.nextRunAt = resumeAt
  /-- Outside passes nothing becomes of the row. -/
  idle : ∀ between m rest, later = between ++ m :: rest → (∀ q, m ≠ .pass q) →
    (m.after.database.executions.find? fun r => r.id == id)
      = m.before.database.executions.find? fun r => r.id == id
  /-- The first node that is run is the one after the delay. -/
  resumes : ∀ between q rest, later = between ++ .pass q :: rest →
    (∀ run, .pass run ∈ between → ¬ run.Recorded id) →
      ∀ v, (q.visits id).head? = some v → v.node.id = node
  /-- No node is run and nothing is written until the time, unless clocks are put back across
  midnight. -/
  bound : ∀ between q rest, later = between ++ .pass q :: rest →
    (∀ run, .pass run ∈ between → run.surroundings.Timely run.now) →
      q.visits id ≠ [] ∨ q.Recorded id → resumeAt ≤ q.now.instant

section
variable {w w' : World σ} {earlier later : List (Move σ)} {p : PassRun σ} {id : String}
  (hw : w.database.Sound)
include hw

theorem Course.sound_around (hcourse : Course w (earlier ++ .pass p :: later) w') :
    p.before.database.Sound ∧ p.after.database.Sound ∧ Course p.after later w' := by
  obtain ⟨hfirst, hlegal, hlater⟩ := hcourse.split
  obtain ⟨hbefore, -⟩ := hfirst.evolves (fun h : False => h.elim) hw
  obtain ⟨hafter, -⟩ := Move.evolves hlegal (fun h : False => h.elim) hbefore
  exact ⟨hbefore, hafter, hlater⟩

/-- A row is not driven before its time as long as times do not go back. -/
theorem Course.due_later (hcourse : Course w (earlier ++ .pass p :: later) w')
    (hrow : (w.database.executions.find? fun r => r.id == id) = some r)
    (hzones : ∀ run, .pass run ∈ earlier → run.surroundings.Timely run.now)
    (hdriven : p.visits id ≠ [] ∨ p.Recorded id) : r.nextRunAt ≤ p.now.instant := by
  obtain ⟨hsound, hrows⟩ := hcourse.split.1.evolves (fun _ : True => hzones) hw
  obtain ⟨r', hr', hadvances⟩ := hrows r (List.mem_of_find?_eq_some hrow)
  obtain ⟨r₁, hbefore, hdue⟩ := PassRun.due_of_driven hsound.keyed hdriven
  have hid : r.id = id := by simpa using List.find?_some hrow
  obtain ⟨hr₁, hid₁⟩ := PassRun.mem_of_rowBefore hbefore
  -- the row that is due is what the row has become
  obtain rfl : r' = r₁ :=
    hsound.keyed.eq_of_id hr' hr₁ (hadvances.id_eq.trans (hid.trans hid₁.symm))
  calc r.nextRunAt ≤ r'.nextRunAt := hadvances.le_nextRunAt trivial
    _ ≤ p.now.instant := (ExecutionRow.isDue_eq_true_iff.mp (Database.mem_due.mp hdue).2).2

/-- A delay that parked an execution holds. -/
theorem Course.delayHolds (hcourse : Course w (earlier ++ .pass p :: later) w')
    (hv : v ∈ p.visits id) (hn : Step.Delays v.node data node) (hrecorded : p.Recorded id) :
    DelayHolds id node (p.resumption data) (p.rowAfter id) later := by
  obtain ⟨hbefore, hafter, hlater⟩ := hcourse.sound_around hw
  obtain ⟨-, r, history, hrow, hwaits, hparked⟩ := PassRun.delays hbefore.keyed hv hn hrecorded
  refine ⟨⟨_, hparked, hwaits, rfl, rfl⟩, ?_, ?_, ?_⟩
  · rintro between m rest rfl hnot
    obtain ⟨hbetween, hlegal, -⟩ := hlater.split
    -- the row is still there
    obtain ⟨r', hr', hadvances⟩ := (hbetween.evolves (fun h : False => h.elim) hafter).2 _
      (List.mem_of_find?_eq_some hparked)
    cases hfound : m.before.database.executions.find? fun r => r.id == id with
    | none =>
      have hid : r'.id = id := hadvances.id_eq.trans (PassRun.mem_of_rowBefore hrow).2
      exact absurd (beq_iff_eq.mpr hid) (List.find?_eq_none.mp hfound r' hr')
    | some r => exact Move.keeps_row hlegal hfound fun run hrun => absurd hrun (hnot run)
  · rintro between q rest rfl hnot v hv
    -- the row has stayed what it was
    have hkept : q.rowBefore id = some (r.parkedAt node (p.resumption data) history) :=
      hlater.split.1.keeps (P := fun w => (w.database.executions.find? fun r => r.id == id) = _)
        (fun m hm hlegal hrow => Move.keeps_row hlegal hrow fun run hrun =>
          hnot run (hrun ▸ hm)) hparked
    obtain ⟨hsound, -⟩ := hlater.sound_around hafter
    rcases PassRun.proceeded hsound.keyed id with ⟨-, -, hnone⟩ | ⟨r₁, r', hrow₁, -, hproceeded⟩
    · rw [hnone] at hv
      cases hv
    · obtain rfl := Option.some.inj (hkept.symm.trans hrow₁)
      have hreference := hproceeded.head hv
      exact Option.some.inj (reference_eq_some_iff.mp hreference).1.symm
  · rintro between q rest rfl hzones hdriven
    exact hlater.due_later hafter hparked hzones hdriven

end

/-! ## Delays that cannot be written -/

/-- The pass leaves the row of the execution as it is, and counts it as failed. -/
structure PassRun.Fails (p : PassRun σ) (id : String) : Prop where
  kept : ¬ p.Recorded id
  /-- There is a report, unless something else answers a write. -/
  counted : ¬ Answered p.surroundings → ∃ report g,
    ((processExecutions p.now).run p.surroundings p.before).1 = .ok report ∧
      ExactReport p.now p.before.database report g p.after.database ∧
      ∃ r ∈ p.before.database.due p.now, r.id = id ∧ g r = r ∧ 0 < report.failed

theorem ExactReport.rowAfter_eq {p : PassRun σ} {report : PassReport}
    {g : ExecutionRow → ExecutionRow}
    (h : ExactReport p.now p.before.database report g p.after.database) (id : String) :
    p.rowAfter id = (p.rowBefore id).map g := by
  have hids : (fun r : ExecutionRow => r.id == id) ∘ g = fun r => r.id == id :=
    funext fun r => by rw [Function.comp_apply, h.ids]
  rw [PassRun.rowAfter, h.tables, List.find?_map, hids]
  rfl

theorem PassRun.fails_of_delays {p : PassRun σ} {id : String} (hk : p.before.database.Keyed)
    (hv : v ∈ p.visits id) (hn : Step.Delays v.node data node)
    (hnot : ¬ p.now.Admits (Step.delayHours p.surroundings.policy data)) : p.Fails id := by
  have hkept : ¬ p.Recorded id := fun hrecorded => hnot (delays hk hv hn hrecorded).1
  refine ⟨hkept, fun hs => ?_⟩
  have hvisits : p.visits id ≠ [] := List.ne_nil_of_mem hv
  obtain ⟨report, g, hrun, hexact⟩ := exactReport hk hs hvisits
  obtain ⟨r, hbefore, hdue⟩ := due_of_driven hk (.inl hvisits)
  have hsame : g r = r := by
    rw [Recorded, not_not, hexact.rowAfter_eq, hbefore] at hkept
    exact Option.some.inj hkept
  refine ⟨report, g, hrun, hexact, r, hdue, (mem_of_rowBefore hbefore).2, hsame, ?_⟩
  rw [hexact.failed]
  exact_mod_cast List.countP_pos_iff.mpr ⟨r, hdue, by simpa using hsame⟩

/-! ## Every run -/

/-- Whatever the operations, what surrounds them and what comes in their way: a delay that parks
an execution holds from then on, and one whose time cannot be written leaves the row as it is. -/
theorem delays_last (outside : σ) (naming : Naming) (turns : List (Surroundings σ × Operation)) :
    (∃ moves, Course (World.fresh outside naming) moves ((World.fresh outside naming).after turns) ∧
      (∀ m ∈ moves, ∀ s, m.surroundings? = some s → s ∈ turns.map (·.1)) ∧
      ((World.fresh outside naming).after turns).attempts = moves.flatMap Move.attempts) ∧
    (∀ earlier p later w', Course (World.fresh outside naming) (earlier ++ .pass p :: later) w' →
      ∀ id, ∀ v ∈ p.visits id, ∀ data node, Step.Delays v.node data node →
        (p.Recorded id → DelayHolds id node (p.resumption data) (p.rowAfter id) later) ∧
        (¬ p.now.Admits (Step.delayHours p.surroundings.policy data) → p.Fails id)) ∧
    (∀ (p : PassRun σ) data, p.now.IsFixed → p.resumption data
      = p.now.instant + Step.delayHours p.surroundings.policy data * Calendar.hour) ∧
    ∀ settings overrides policy, Settings.policy settings overrides = .ok policy →
      ∀ data, Step.delayHours policy data = if data.hours = 0 then 24 else data.hours := by
  have hempty : (World.fresh outside naming).database.Sound := Database.empty_sound
  refine ⟨?_, ?_, fun p data hfixed => Calendar.Stamp.instant_plus hfixed _, ?_⟩
  · obtain ⟨moves, hcourse, hturns⟩ := (World.fresh outside naming).after_course turns
    exact ⟨moves, hcourse, hturns, hcourse.attempts_eq⟩
  · intro earlier p later w' hcourse id v hv data node hn
    obtain ⟨hbefore, -⟩ := hcourse.sound_around hempty
    exact ⟨hcourse.delayHolds hempty hv hn, PassRun.fails_of_delays hbefore.keyed hv hn⟩
  · intro settings overrides policy hpolicy data
    obtain ⟨zone, -, hpolicy⟩ := bind_eq_ok_iff.mp hpolicy
    obtain rfl := Except.ok.inj hpolicy
    rfl

namespace PausedAlert

open MidnightAlert (alert stJohns turn)

/-- A pause, after which there is a message for midnight. -/
def pause (hours : Nat) : Node := ⟨⟨"pause", .origin⟩, .delay ⟨none, hours, []⟩ (some alert.id)⟩

def funnel (hours : Nat) : Funnel :=
  ⟨"funnel-1", "Launch", "launch", true, [pause hours, alert], some (pause hours).id⟩

def form : SubscriptionForm :=
  { email := .str "ada@example.com", phone := .str "+351 900 000 000" }

def begin : Int := Calendar.Zone.utcInstant 2010 11 7 2 0

/-- The funnel has been started for a lead. -/
def started (p : Policy) (hours : Nat) : World Unit :=
  (World.fresh ()).after
    [turn p begin (.subscribeLead form),
     turn p begin (.saveFunnel ⟨some "funnel-1", fun _ => funnel hours⟩),
     turn p begin (.trigger "launch" (.own "lead-1") [] false)]

def pass (p : Policy) (t : Int) (w : World Unit) : PassRun Unit :=
  ⟨.calm (.ahead t 0) p, .ahead t 0, w⟩

/-- The pause begins, -/
def first (p : Policy) (hours : Nat) : PassRun Unit := pass p begin (started p hours)

/-- an hour later a pass is made, -/
def second (p : Policy) : PassRun Unit := pass p (begin + Calendar.hour) (first p 1).after

/-- and then one at a time half an hour before that. -/
def third (p : Policy) : PassRun Unit :=
  pass p (begin + 30 * Calendar.minute + 30 * Calendar.second) (second p).after

theorem course (p : Policy) (hours : Nat) {later : List (Move Unit)} {w : World Unit}
    (h : Course (first p hours).after later w) :
    ∃ earlier, Course (World.fresh ()) (earlier ++ .pass (first p hours) :: later) w := by
  obtain ⟨earlier, hcourse, -⟩ := (World.fresh ()).after_course
    [turn p begin (.subscribeLead form),
     turn p begin (.saveFunnel ⟨some "funnel-1", fun _ => funnel hours⟩),
     turn p begin (.trigger "launch" (.own "lead-1") [] false)]
  exact ⟨earlier, hcourse.append (.move (m := .pass (first p hours)) trivial h)⟩

/-- Whether the node is a pause of so many hours before the message. -/
def pauses (hours : Nat) (n : Node) : Bool :=
  match n.task with
  | .delay data next => data.hours == hours && reference next == some alert.id
  | _ => false

theorem exists_pause {hours : Nat} {visits : List Visit}
    (h : visits.any (fun v => pauses hours v.node) = true) :
    ∃ v ∈ visits, ∃ data, Step.Delays v.node data alert.id ∧ data.hours = hours := by
  obtain ⟨v, hv, hpauses⟩ := List.any_eq_true.mp h
  unfold pauses at hpauses
  split at hpauses
  · rename_i data next htask
    rw [Bool.and_eq_true, beq_iff_eq, beq_iff_eq] at hpauses
    exact ⟨v, hv, data, ⟨next, htask, hpauses.2⟩, hpauses.1⟩
  · cases hpauses

/-- A pause of an hour holds until a pass an hour later, and one that is beyond the calendar is
counted as failed. -/
theorem pause_lasts :
    let p : Policy := .usual .utc 2
    (∃ v ∈ (first p 1).visits "exec-1", ∃ data, Step.Delays v.node data alert.id ∧
      (first p 1).Recorded "exec-1" ∧
      DelayHolds "exec-1" alert.id ((first p 1).resumption data) ((first p 1).rowAfter "exec-1")
        [.pass (second p)]) ∧
    (second p).visits "exec-1" ≠ [] ∧
    ∃ v ∈ (first p 100000000).visits "exec-1", ∃ data, Step.Delays v.node data alert.id ∧
      ¬ (first p 100000000).now.Admits (Step.delayHours p data) ∧
      (first p 100000000).Fails "exec-1" := by
  intro p
  obtain ⟨earlier, hcourse⟩ :=
    course p 1 (.move (m := .pass (second p)) trivial (.stay _))
  obtain ⟨v, hv, data, hn, -⟩ : ∃ v ∈ (first p 1).visits "exec-1",
      ∃ data, Step.Delays v.node data alert.id ∧ data.hours = 1 :=
    exists_pause (by decide +kernel)
  have hrecorded : (first p 1).Recorded "exec-1" := by
    intro h
    exact absurd (congrArg (·.map (·.nextRunAt)) h) (by decide +kernel)
  obtain ⟨earlier', hcourse'⟩ := course p 100000000 (.stay _)
  obtain ⟨v', hv', data', hn', hhours⟩ : ∃ v ∈ (first p 100000000).visits "exec-1",
      ∃ data, Step.Delays v.node data alert.id ∧ data.hours = 100000000 :=
    exists_pause (by decide +kernel)
  have hnot : ¬ (first p 100000000).now.Admits (Step.delayHours p data') := by
    rw [Step.delayHours, hhours]
    exact fun h => absurd h.1 (by decide)
  refine ⟨⟨v, hv, data, hn, hrecorded, ?_⟩, ?_, v', hv', data', hn', hnot, ?_⟩
  · exact ((delays_last () .counted []).2.1 _ _ _ _ hcourse _ v hv data _ hn).1 hrecorded
  · exact fun h => absurd (congrArg List.length h) (by decide +kernel)
  · exact ((delays_last () .counted []).2.1 _ _ _ _ hcourse' _ v' hv' data' _ hn').2 hnot

/-- In the zone of St John's the message is sent half an hour before a pause of an hour is over. -/
theorem sent_early :
    let p : Policy := .usual stJohns 2
    (∃ earlier, Course (World.fresh ())
      (earlier ++ .pass (first p 1) :: [.pass (second p), .pass (third p)]) (third p).after) ∧
    (∃ v ∈ (first p 1).visits "exec-1", ∃ data, Step.Delays v.node data alert.id ∧
      (first p 1).Recorded "exec-1" ∧ (first p 1).resumption data = begin + Calendar.hour) ∧
    ((third p).visits "exec-1").map (fun v => (v.node.id, v.tried.length)) = [(alert.id, 1)] ∧
    (third p).now.instant < begin + Calendar.hour := by
  intro p
  obtain ⟨v, hv, data, hn, hhours⟩ : ∃ v ∈ (first p 1).visits "exec-1",
      ∃ data, Step.Delays v.node data alert.id ∧ data.hours = 1 :=
    exists_pause (by decide +kernel)
  refine ⟨?_, ⟨v, hv, data, hn, ?_, ?_⟩, by decide +kernel⟩
  · exact course p 1 (.move (m := .pass (second p)) trivial
      (.move (m := .pass (third p)) trivial (.stay _)))
  · intro h
    exact absurd (congrArg (·.map (·.nextRunAt)) h) (by decide +kernel)
  · rw [PassRun.resumption, Step.resumption, Step.delayHours, hhours]
    decide

end PausedAlert

end Nurture
