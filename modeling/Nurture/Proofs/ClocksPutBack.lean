import Nurture.Proofs.LeadTable
import Nurture.Proofs.LifeCycle
import Nurture.Proofs.PassReport

/-!
  Clocks that are put back across midnight

  The time of an execution may become an earlier one, exactly in zones whose clocks do not
  keep dates (`neverTurnsBack_iff`). There, a message for midnight that is driven in the
  second pass of the evening is parked for the midnight of the first pass.
-/

namespace Nurture

/-! ## Calm surroundings -/

section
variable {α : Type} {t : Calendar.Stamp} {p : Policy}

theorem run_guarded_calm (c : Call) (body : Action Unit α) (w : World Unit) :
    (Action.guarded c body).run (.calm t p) w
      = ((body.run (.calm t p) w).1.map .own, (body.run (.calm t p) w).2) := by
  rw [Action.guarded, Action.relayed_of_none rfl, Action.run_map]

theorem run_listFunnels_calm {w : World Unit} {funnels : List Funnel}
    (h : List.Forall₂ (fun r f => FunnelRow.load r = .ok f) w.database.funnelRows funnels) :
    Store.listFunnels.run (.calm t p) w = (.ok (.own funnels), w) := by
  rw [listFunnels_eq, run_guarded_calm, run_listing, mapM_eq_ok_iff.mpr h]
  rfl

end

theorem eq_singleton_of_forall₂ {α β : Type} {load : α → Except Failure β} {a : α} {b : β}
    {items : List β} (h : List.Forall₂ (fun a b => load a = .ok b) [a] items)
    (hload : load a = .ok b) : items = [b] := by
  cases h with
  | cons hhead htail =>
    obtain rfl := Except.ok.inj (hhead.symm.trans hload)
    rw [List.forall₂_nil_left_iff.mp htail]

namespace MidnightAlert

/-- What is to be sent at midnight. -/
def message : WhatsAppData :=
  { WhatsAppData.blank with sendTime := some "00:00", content := some "Launch" }

/-- A message for midnight. -/
def alert : Node := ⟨⟨"alert", .origin⟩, .whatsApp message none⟩

def funnel : Funnel := ⟨"funnel-1", "Launch", "launch", true, [alert], some alert.id⟩

def form : SubscriptionForm := { email := .str "ada@example.com" }

def subscription : Subscription := ⟨"ada@example.com", none, "", ""⟩

def leadRow : LeadRow := ⟨"lead-1", "ada@example.com", "", "", Lead.active, [], "new", none, 0⟩

def lead : Lead :=
  { id := "lead-1", email := "ada@example.com", name := "", phone := "", status := Lead.active,
    tags := [], stage := "new", source := none, createdAt := some (.floating 0) }

/-- An operation at an instant, in which nothing comes in the way. -/
def turn (p : Policy) (t : Int) (op : Operation) : Surroundings Unit × Operation :=
  (.calm (.ahead t 0) p, op)

/-- A lead is subscribed, and the funnel is saved, -/
def prepared (p : Policy) : List (Surroundings Unit × Operation) :=
  [turn p 0 (.subscribeLead form), turn p 0 (.saveFunnel ⟨some funnel.id, fun _ => funnel⟩)]

/-- the funnel is started for the lead, -/
def started (p : Policy) (t : Int) : List (Surroundings Unit × Operation) :=
  prepared p ++ [turn p t (.trigger funnel.trigger (.own lead.id) [] false)]

/-- and the execution is driven at once. -/
def driven (p : Policy) (t : Int) : List (Surroundings Unit × Operation) :=
  [turn p t (.processExecutions (.ahead t 0))]

/-- The execution that is started. -/
def row (t : Int) : ExecutionRow :=
  ⟨"exec-1", funnel.id, lead.id, some alert.id, Status.waiting.name, t, .arr [], [],
    t / Calendar.second * Calendar.second⟩

theorem load_funnel : FunnelRow.load (funnel.toRow 0) = .ok funnel := by rfl

theorem load_lead : LeadRow.load leadRow = .ok lead := by rfl

theorem World.after_turn (w : World Unit) (p : Policy) (t : Int) (op : Operation)
    (turns : List (Surroundings Unit × Operation)) :
    w.after (turn p t op :: turns) = (op.act.run (.calm (.ahead t 0) p) w).2.after turns :=
  rfl

theorem subscribed (p : Policy) : ∃ l w,
    (subscribeLead form).run (.calm (.ahead 0 0) p) (World.fresh ()) = (.ok (.own l), w) ∧
      w.database = ⟨[], [], [leadRow], []⟩ ∧ w.issued = { leads := 1 } := by
  obtain ⟨l, w₁, hsub, hdb, hissued⟩ : ∃ l w₁, (Store.subscribe form).run
      (.calm (.ahead 0 0) p) (World.fresh ()) = (.ok (.own l), w₁) ∧
      w₁.database = ⟨[], [], [leadRow], []⟩ ∧ w₁.issued = { leads := 1 } := by
    have hrow : LeadRow.ofSubscription subscription "lead-1" (.ahead 0 0) = .ok leadRow := rfl
    obtain ⟨w₁, hadd, hdb, hissued⟩ := Store.run_addLead (s := .calm (.ahead 0 0) p)
      (w := World.fresh ()) hrow nofun nofun
    refine ⟨lead, w₁, ?_, hdb, hissued⟩
    have henrol : (Store.enrol form).run (.calm (.ahead 0 0) p) (World.fresh ()) =
        (leadRow.load, w₁) := by
      have hcheck : Store.checked form = .ok subscription := rfl
      exact (Store.run_enrol hcheck).trans hadd
    rw [Store.subscribe_eq, run_guarded_calm, henrol, load_lead]
    rfl
  have hrows : w₁.database.funnelRows = [] := by
    rw [hdb]
    exact List.mergeSort_nil
  have hlist : Store.listFunnels.run (.calm (.ahead 0 0) p) w₁ = (.ok (.own []), w₁) :=
    run_listFunnels_calm (hrows ▸ .nil)
  obtain ⟨w₂, hidle, hdb₂, hissued₂⟩ :
      ∃ w₂, (triggerFunnels Trigger.leadSubscribed (.own l.id) [] true).run
        (.calm (.ahead 0 0) p) w₁ = (.ok [], w₂) ∧ w₂.database = w₁.database ∧
        w₂.issued = w₁.issued := by
    unfold triggerFunnels
    rw [Action.run_bind_ok hlist]
    exact ⟨_, rfl, rfl, rfl⟩
  have hattempt := Action.run_attempt
    (triggerFunnels Trigger.leadSubscribed (.own l.id) [] true) (.calm (.ahead 0 0) p) w₁
  rw [hidle] at hattempt
  refine ⟨l, w₂, ?_, hdb₂.trans hdb, hissued₂.trans hissued⟩
  unfold subscribeLead
  rw [Action.run_bind_ok hsub]
  exact (Action.run_bind_ok hattempt).trans rfl

theorem database_prepared (p : Policy) :
    ((World.fresh ()).after (prepared p)).database = ⟨[funnel.toRow 0], [], [leadRow], []⟩ ∧
      ((World.fresh ()).after (prepared p)).issued = { leads := 1 } := by
  obtain ⟨l, ⟨db, issued, attempts, journal, outside⟩, hrun, hdb, hissued⟩ := subscribed p
  have hsaved : ∃ w, (Store.saveFunnel ⟨some funnel.id, fun _ => funnel⟩).run (.calm (.ahead 0 0) p)
      (⟨⟨[], [], [leadRow], []⟩, { leads := 1 }, attempts, journal, outside⟩ : World Unit)
        = (.ok (.own funnel), w) ∧
      w.database = ⟨[funnel.toRow 0], [], [leadRow], []⟩ ∧ w.issued = { leads := 1 } :=
    ⟨_, rfl, rfl, rfl⟩
  subst hdb hissued
  obtain ⟨w, hsave, hdb, hissued⟩ := hsaved
  have hafter : (World.fresh ()).after (prepared p) = w := by
    rw [prepared, World.after_turn, World.after_turn, Operation.act, Operation.act,
      Action.snd_run_bind_pure, Action.snd_run_bind_pure, hrun, hsave]
    rfl
  rw [hafter]
  exact ⟨hdb, hissued⟩

/-- The draft of the execution. -/
def draft (t : Int) : Draft Execution :=
  ⟨none, fun id =>
    { id := id, funnelId := funnel.id, leadId := lead.id, currentNodeId := some alert.id,
      status := .waiting, nextRunAt := .ahead t 0, history := [], context := [],
      createdAt := none }⟩

section
variable {p : Policy} {t : Int} {w : World Unit}
  (ht : Calendar.inRange t = true) (hp : p.dedupe = false)
  (hdb : w.database = ⟨[funnel.toRow 0], [], [leadRow], []⟩) (hissued : w.issued = { leads := 1 })
include ht hdb hissued

theorem run_startFunnel : ∃ e w',
    (startFunnel funnel.trigger (.own lead.id) [] [] (.ahead t 0) funnel).run
        (.calm (.ahead t 0) p) w = (.ok (some e), w') ∧
    w'.database = ⟨[funnel.toRow 0], [row t], [leadRow], []⟩ := by
  have hinstant : (Calendar.Stamp.ahead t 0).instant = t := Int.sub_zero t
  have hrow : ((draft t).withId "exec-1").newRow (.ahead t 0) = .ok (row t) := by
    have hid : Text.isWhole "exec-1" = true := by decide
    have hfunnel : Text.isWhole funnel.id = true := by decide
    have hlead : Text.isWhole lead.id = true := by decide
    have hnode : ∀ node ∈ some alert.id, Text.isWhole node = true := by
      rintro _ ⟨⟩
      decide
    have htexts : ((draft t).withId "exec-1").checkTexts = .ok () :=
      Store.checkTexts_eq_ok_iff.mpr ⟨hfunnel, hlead, hnode⟩
    refine Store.newRow_eq_ok_iff.mpr ⟨⟨_, rfl⟩, hid, htexts, by rw [hinstant]; exact ht, ?_⟩
    simp [Store.rowOf, row, draft, hinstant, Execution.historyJson]
  have hid : "exec-1" = w.issued.naming.name .execution (w.issued.executions + 1) := by
    rw [hissued]
    decide
  obtain ⟨w', hcreate, -, -, hdb'⟩ := Store.createExecution_of_none (s := .calm (.ahead t 0) p)
    (w := w) rfl (rfl : (draft t).id = none) hid hrow (by simp [hdb])
  rw [hdb] at hdb'
  exact ⟨_, _, run_startFunnel_of_created rfl rfl rfl hcreate, hdb'⟩

include hp in
theorem database_triggered :
    ((triggerFunnels funnel.trigger (.own lead.id) [] false).run
      (.calm (.ahead t 0) p) w).2.database = ⟨[funnel.toRow 0], [row t], [leadRow], []⟩ := by
  have hrows : w.database.funnelRows = [funnel.toRow 0] := by
    rw [hdb]
    exact List.mergeSort_singleton _
  have hlist : Store.listFunnels.run (.calm (.ahead t 0) p) w = (.ok (.own [funnel]), w) :=
    run_listFunnels_calm (hrows ▸ .cons load_funnel .nil)
  have hrunning : (runningFunnels (.own lead.id)).run (.calm (.ahead t 0) p) w = (.ok [], w) := by
    unfold runningFunnels
    rw [Action.run_bind_ok (Action.run_policy _ _)]
    simp only [Surroundings.calm, hp, Bool.false_eq_true, if_false]
    rfl
  obtain ⟨e, w', hstart, hdb'⟩ := run_startFunnel (p := p) ht hdb hissued
  have hcollect : (Action.collect (startFunnel funnel.trigger (.own lead.id) [] [] (.ahead t 0))
      [funnel]).run (.calm (.ahead t 0) p) w = (.ok [some e], w') := by
    unfold Action.collect
    rw [Action.run_bind_ok hstart]
    rfl
  have hlistens :
      ([funnel].filter fun f => f.isActive && f.trigger == funnel.trigger) = [funnel] := by
    rfl
  have hclock : (Surroundings.calm (.ahead t 0) p).clock = (.ahead t 0) := rfl
  unfold triggerFunnels
  rw [Action.run_bind_ok hlist, Reply.records_own, Action.run_bind_ok (Action.run_ofExcept _ _ w)]
  dsimp only
  rw [hlistens, List.isEmpty_cons, if_neg Bool.false_ne_true]
  rw [Action.run_bind_ok hrunning, Action.run_bind_ok (Action.run_clock _ _), hclock,
    Action.run_bind_ok hcollect]
  exact hdb'

end

theorem database_started {p : Policy} {t : Int} (ht : Calendar.inRange t = true)
    (hp : p.dedupe = false) : ((World.fresh ()).after (started p t)).database
      = ⟨[funnel.toRow 0], [row t], [leadRow], []⟩ := by
  obtain ⟨hdb, hissued⟩ := database_prepared p
  rw [started, World.after_append, World.after_turn, Operation.act, Action.snd_run_bind_pure]
  exact database_triggered ht hp hdb hissued

/-! ## The pass -/

/-- The execution as it is read. -/
def execution (t : Int) : Execution := (row t).toExecution .waiting []

theorem load_row (t : Int) : (row t).load = .ok (execution t) :=
  ExecutionRow.load_eq_ok_iff.mpr ⟨.waiting, [], rfl, .inl rfl, rfl⟩

section
variable {p : Policy} {t resumeAt : Int} {w : World Unit}
  (ht : Calendar.inRange t = true)
  (hdb : w.database = ⟨[funnel.toRow 0], [row t], [leadRow], []⟩)
  (hisOpen : SendWindow.isOpen "00:00" (.ahead t 0) (.ahead t 0) p.zone p.tolerance p.grace
    = .ok false)
  (hnext : SendWindow.next "00:00" (.ahead t 0) p.zone = .ok (.ofInstant resumeAt))
include hisOpen hnext

theorem run_alert : ∃ w', (Step.perform ⟨execution t, lead, .ahead t 0⟩ alert).run
    (.calm (.ahead t 0) p) w = (.ok (.suspended alert.id (.ahead resumeAt 0)), w') := by
  have hwindow : Step.windowToAwait ⟨execution t, lead, .ahead t 0⟩ message
      (Surroundings.calm (.ahead t 0) p).policy = .ok (some ("00:00", .ofInstant resumeAt)) := by
    have hfilled : filled message.sendTime = some "00:00" := rfl
    unfold Step.windowToAwait
    rw [hfilled]
    refine bind_eq_ok_iff.mpr ⟨false, hisOpen, ?_⟩
    exact bind_eq_ok_iff.mpr ⟨_, hnext, rfl⟩
  have hexecute : ∃ w', (Step.execute ⟨execution t, lead, .ahead t 0⟩ alert).run
      (.calm (.ahead t 0) p) w = (.ok (.suspended alert.id (.ahead resumeAt 0)), w') := by
    have htask : Step.execute ⟨execution t, lead, .ahead t 0⟩ alert
        = (Step.whatsApp ⟨execution t, lead, .ahead t 0⟩ alert.id message none : Action Unit _) :=
      rfl
    rw [htask]
    unfold Step.whatsApp
    rw [Action.run_bind_ok (Action.run_policy _ _), hwindow,
      Action.run_bind_ok (Action.run_ofExcept _ _ _)]
    exact ⟨_, rfl⟩
  obtain ⟨w', hrun⟩ := hexecute
  refine ⟨w', ?_⟩
  unfold Step.perform
  have hcall := run_guarded_calm (t := (.ahead t 0)) (p := p) .runNode
    (Step.execute ⟨execution t, lead, .ahead t 0⟩ alert) w
  rw [hrun] at hcall
  rw [Action.run_bind_ok hcall]
  rfl

include ht hdb

theorem run_due (hbound : 0 < p.bound) :
    ∃ w' history, (Action.collect (processDue [funnel] [lead] (.ahead t 0)) [execution t]).run
      (.calm (.ahead t 0) p) w = (.ok [.suspended], w') ∧
      w'.database.executions = [(row t).parkedAt alert.id resumeAt history] := by
  have hkeyed : w.database.Keyed := by
    rw [hdb]
    refine ⟨List.nodup_singleton _, fun r hr => ?_⟩
    obtain rfl := List.mem_singleton.mp hr
    show Text.isWhole "exec-1" = true
    decide
  have hr : row t ∈ w.database.executions := by
    rw [hdb]
    exact List.mem_singleton_self _
  obtain ⟨w₁, halert⟩ := run_alert (w := w) hisOpen hnext
  have hstay : Traversal funnel ⟨execution t, lead, .ahead t 0⟩ (.calm (.ahead t 0) p)
      (execution t).currentNodeId w [] (execution t).currentNodeId w := .stay _ _
  have hwalk := run_walk_of_bounded hstay hbound (rfl : reference _ = some alert.id)
    (rfl : funnel.node? alert.id = some alert)
  rw [halert] at hwalk
  have hclock : Calendar.inRange (Surroundings.calm (.ahead t 0) p).clock.instant = true := by
    show Calendar.inRange (t - 0) = true
    rw [Int.sub_zero]
    exact ht
  obtain ⟨w₂, hrun, -, hdb₂⟩ := process_parks hkeyed hr (load_row t) hclock (fun _ => rfl)
    (database_of_perform hstay halert) hwalk (by decide) ⟨_, rfl⟩
  refine ⟨w₂, [suspendedEntry alert (.ahead resumeAt 0) (.ahead t 0)], ?_, ?_⟩
  · have hattempt := Action.run_attempt
      (processExecution (execution t) (some funnel) (some lead) (.ahead t 0))
      (.calm (.ahead t 0) p) w
    rw [hrun] at hattempt
    have hone : (processDue [funnel] [lead] (.ahead t 0) (execution t)).run
        (.calm (.ahead t 0) p) w = (.ok .suspended, w₂) :=
      (Action.run_bind_ok hattempt).trans rfl
    unfold Action.collect
    rw [Action.run_bind_ok hone]
    rfl
  · rw [hdb₂, hdb]
    show [(row t).parkedAt alert.id (resumeAt - 0) _] = _
    rw [Int.sub_zero]
    rfl

theorem database_driven (hbound : 0 < p.bound) : ∃ history,
    ((processExecutions (.ahead t 0)).run (.calm (.ahead t 0) p) w).2.database.executions
      = [(row t).parkedAt alert.id resumeAt history] := by
  have hfunnels : w.database.funnelRows = [funnel.toRow 0] := by
    rw [hdb]
    exact List.mergeSort_singleton _
  have hleads : w.database.leadRows = [leadRow] := by
    rw [hdb]
    exact List.mergeSort_singleton _
  have hwaiting : w.database.waitingRows = [row t] := by
    rw [hdb]
    exact List.mergeSort_singleton _
  have hdue : (row t).isDue (.ahead t 0) = true := by
    show (true && decide (t ≤ t - 0)) = true
    simp
  have hl : w.database.Loadable := by
    rw [hdb]
    refine ⟨fun r hr _ => ?_, fun r hr => ?_, fun r hr => ?_⟩
    · obtain rfl := List.mem_singleton.mp hr
      exact ⟨_, load_row t⟩
    · obtain rfl := List.mem_singleton.mp hr
      exact ⟨_, load_funnel⟩
    · obtain rfl := List.mem_singleton.mp hr
      exact ⟨_, load_lead⟩
  obtain ⟨due, funnels, leads, w₀, h⟩ := @readDue_known _ (.calm (.ahead t 0) p) (.ahead t 0) w hl
    Surroundings.calm_steady rfl
  have hload := h.load_due
  rw [hwaiting, List.filter_cons, if_pos hdue, List.filter_nil] at hload
  obtain rfl : due = [execution t] := eq_singleton_of_forall₂ hload (load_row t)
  have hsome : [execution t] ≠ [] := List.cons_ne_nil _ _
  obtain rfl : funnels = [funnel] :=
    eq_singleton_of_forall₂ (hfunnels ▸ h.load_funnels hsome) load_funnel
  obtain rfl : leads = [lead] := eq_singleton_of_forall₂ (hleads ▸ h.load_leads hsome) load_lead
  obtain ⟨w', history, hcollect, hrows⟩ := run_due ht (h.database_eq.trans hdb) hisOpen hnext hbound
  obtain ⟨w'', hrun, hdb'', -⟩ := run_driveDue_of_collect hcollect
  refine ⟨history, ?_⟩
  rw [processExecutions_eq, Action.run_bind_ok h.run, hrun]
  exact (congrArg Database.executions hdb'').trans hrows

end

/-- Rules under which no message is near its window. -/
def rules (z : Calendar.Zone) : Policy :=
  { Policy.usual z 1 with tolerance := .whole (-1), dedupe := false }

/-- Where clocks are put back across midnight, the time becomes an earlier one. -/
theorem parked_before {z : Calendar.Zone} (hz : z.Regular) (hk : ¬ z.KeepsDates) :
    ∃ t, ((World.fresh ()).after (started (rules z) t)).database.executions = [row t] ∧
      ∃ resumeAt history, resumeAt < t ∧
        ((World.fresh ()).after (started (rules z) t ++ driven (rules z) t)).database.executions
          = [(row t).parkedAt alert.id resumeAt history] := by
  obtain ⟨t, boundary, h⟩ := SendWindow.exists_midnightPassed hz hk
  have ht : Calendar.inRange t = true := by
    have hearly := h.early.1
    have hlate := h.late.1
    rw [Calendar.day_eq] at hearly hlate
    exact SendWindow.inRange_of (by omega) (by omega)
  have hdb := database_started (p := rules z) ht rfl
  obtain ⟨history, hdriven⟩ := database_driven (p := rules z) ht hdb
    (SendWindow.isOpen_of_midnightPassed h hz _) (SendWindow.next_of_midnightPassed h hz)
    Nat.zero_lt_one
  refine ⟨t, by rw [hdb], _, history, h.passed, ?_⟩
  rw [World.after_append, driven, World.after_turn, Operation.act, Action.snd_run_bind_pure]
  exact hdriven

end MidnightAlert

/-- In no run in the zone, by clocks that go on, does the time of an execution become an earlier
one. -/
def Calendar.Zone.NeverTurnsBack (z : Calendar.Zone) : Prop :=
  ∀ before later : List (Surroundings Unit × Operation),
    (∀ turn ∈ before ++ later, turn.1.policy.zone = z ∧ turn.1.clock.GoesOn ∧
      turn.2.PassesAt Calendar.Stamp.GoesOn) →
    ∀ r ∈ ((World.fresh ()).after before).database.executions,
      ∀ r' ∈ ((World.fresh ()).after (before ++ later)).database.executions,
        r'.id = r.id → r.nextRunAt ≤ r'.nextRunAt

theorem neverTurnsBack_iff {z : Calendar.Zone} (hz : z.Regular) :
    z.NeverTurnsBack ↔ z.KeepsDates := by
  constructor
  · -- a run in which a message for midnight turns the time back
    intro hnever
    by_contra hk
    obtain ⟨t, hrows, resumeAt, history, hlt, hrows'⟩ := MidnightAlert.parked_before hz hk
    have hclock : ∀ t, (Calendar.Stamp.ahead t 0).GoesOn := fun _ =>
      Calendar.Stamp.IsFixed.goesOn trivial
    have hzone : ∀ turn ∈ MidnightAlert.started (MidnightAlert.rules z) t
        ++ MidnightAlert.driven (MidnightAlert.rules z) t, turn.1.policy.zone = z ∧
          turn.1.clock.GoesOn ∧ turn.2.PassesAt Calendar.Stamp.GoesOn := by
      simp [MidnightAlert.started, MidnightAlert.prepared, MidnightAlert.driven,
        MidnightAlert.turn, MidnightAlert.rules, Surroundings.calm, Policy.usual,
        Operation.PassesAt, hclock]
    have hle := hnever _ _ hzone (MidnightAlert.row t)
      (by rw [hrows]; exact List.mem_singleton_self _)
      ((MidnightAlert.row t).parkedAt MidnightAlert.alert.id resumeAt history)
      (by rw [hrows']; exact List.mem_singleton_self _) rfl
    exact absurd hle (Int.not_le.mpr hlt)
  · intro hk before later hzone r hr r' hr' hid
    obtain ⟨r₁, hr₁, hadvances, hunique⟩ := executions_advance () .counted before later r hr
    obtain rfl : r' = r₁ := hunique r' hr' hid
    refine hadvances.le_nextRunAt fun turn hturn => ?_
    obtain ⟨rfl, hclock, hpass⟩ := hzone turn (List.mem_append_right before hturn)
    exact ⟨⟨hz, hk, hclock⟩, hpass⟩

/-- Whatever the operations, what surrounds them and what comes in their way, rows of executions
become only what they may become; times never go back exactly in zones whose clocks keep dates. -/
theorem executions_live {σ : Type} (outside : σ) (naming : Naming)
    (before later : List (Surroundings σ × Operation)) :
    (∀ r ∈ ((World.fresh outside naming).after before).database.executions,
      ∃ r' ∈ ((World.fresh outside naming).after (before ++ later)).database.executions,
        r.Advances (∀ turn ∈ later, turn.2.Timely turn.1) r' ∧
        ∀ x ∈ ((World.fresh outside naming).after (before ++ later)).database.executions,
          x.id = r.id → x = r') ∧
    ∀ z : Calendar.Zone, z.Regular → (z.NeverTurnsBack ↔ z.KeepsDates) :=
  ⟨executions_advance outside naming before later, fun _ hz => neverTurnsBack_iff hz⟩

namespace MidnightAlert

def stJohns : Calendar.Zone := Calendar.Zone.table[2]

/-- Half an hour before midnight, for the second time. -/
def secondPass : Int := Calendar.Zone.utcInstant 2010 11 7 3 0

/-- In the zone of St John's the execution is there after the pass, and times may go back. -/
theorem alert_advances :
    (∃ r ∈ ((World.fresh ()).after (started (rules stJohns) secondPass)).database.executions,
      ∃ r' ∈ ((World.fresh ()).after (started (rules stJohns) secondPass
          ++ driven (rules stJohns) secondPass)).database.executions,
        r.Advances (∀ turn ∈ driven (rules stJohns) secondPass, turn.2.Timely turn.1) r') ∧
    stJohns.Regular ∧ ¬ stJohns.NeverTurnsBack := by
  obtain ⟨hlive, hzones⟩ := executions_live () .counted (started (rules stJohns) secondPass)
    (driven (rules stJohns) secondPass)
  have hr : row secondPass
      ∈ ((World.fresh ()).after (started (rules stJohns) secondPass)).database.executions := by
    rw [database_started (by decide) rfl]
    exact List.mem_singleton_self _
  obtain ⟨r', hr', hadvances, -⟩ := hlive _ hr
  have hz : stJohns.Regular := by decide +kernel
  have hk : ¬ stJohns.KeepsDates := by decide +kernel
  exact ⟨⟨_, hr, r', hr', hadvances⟩, hz, fun h => hk ((hzones stJohns hz).mp h)⟩

/-- With the usual rules too, the execution that is due at half past eleven is parked for a time
half an hour before. -/
theorem parked_half_an_hour_before :
    ((World.fresh ()).after (started (.usual stJohns 1) secondPass)).database.executions.map
        (fun r => (r.id, r.nextRunAt)) = [("exec-1", Calendar.Zone.utcInstant 2010 11 7 3 0)] ∧
    ((World.fresh ()).after (started (.usual stJohns 1) secondPass
        ++ driven (.usual stJohns 1) secondPass)).database.executions.map
        (fun r => (r.id, r.nextRunAt)) = [("exec-1", Calendar.Zone.utcInstant 2010 11 7 2 30)] := by
  decide +kernel

end MidnightAlert

end Nurture
