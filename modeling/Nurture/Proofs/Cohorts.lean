import Nurture.Proofs.AcceptedMessages
import Nurture.Proofs.Triggers

/-!
  Cohorts

  A broadcast leaves one execution of a funnel for each of its leads, all at one node and until one
  time (`Cohort`). Until then passes and deletions of leads leave the executions alone and send
  nothing (`Cohort.after`); the first pass from then on drives all of them at once, and where it is
  known what driving one of them comes to, it parks the whole cohort at another node
  (`Cohort.parks`) or ends it (`Cohort.ends`). Executions of leads that are gone are ended in any
  case. Once no execution waits, no pass sends anything (`Database.AllDone.after`).
-/

namespace Nurture

open Nurture.Action

variable {σ : Type} {s : Surroundings σ} {w : World σ} {db : Database}

theorem Database.funnelRows_of_singleton {row : FunnelRow} (h : db.funnels = [row]) :
    db.funnelRows = [row] := by
  rw [funnelRows, h]
  exact List.perm_singleton.mp (inOrder_perm _ _)

/-- The execution is one of the funnel for the lead, and waits at the node until the time. -/
structure ExecutionRow.Awaits (funnelId leadId node : String) (time : Int) (r : ExecutionRow) :
    Prop where
  funnelId_eq : r.funnelId = funnelId
  leadId_eq : r.leadId = leadId
  status_eq : r.status = Status.waiting.name
  node_eq : r.currentNodeId = some node
  time_eq : r.nextRunAt = time

/-- The funnel is the only one, and there is one execution of it for each of the leads, which waits
at the node until the time. Of the leads, some may be gone, but none has changed. -/
structure Cohort (f : Funnel) (leads : List Lead) (texts : Context) (node : String) (time : Int)
    (db : Database) : Prop where
  funnel : ∃ row, db.funnels = [row] ∧ FunnelRow.load row = .ok f
  keyed : db.Keyed
  rows : List.Forall₂ (fun l r => r.Awaits f.id l.id node time ∧ r.context = texts ∧
    ∃ e, ExecutionRow.load r = .ok e) leads db.executions
  load_leads : ∀ r ∈ db.leads, ∃ l, LeadRow.load r = .ok l
  unchanged : ∀ l ∈ leads, ∀ r ∈ db.leads, r.id = l.id → r.load = .ok l

/-- Whether the lead is there. -/
def Database.hasLead (db : Database) (id : String) : Bool := db.leads.any fun r => r.id == id

namespace Cohort

variable {f : Funnel} {leads : List Lead} {texts : Context} {node : String} {time : Int}
  (h : Cohort f leads texts node time db)
include h

theorem awaits : ∀ r ∈ db.executions, ∃ l ∈ leads, r.Awaits f.id l.id node time ∧
    r.context = texts ∧ ∃ e, r.load = .ok e := by
  intro r hr
  obtain ⟨l, hl, hawaits⟩ := exists_mem_of_forall₂ h.rows.flip hr
  exact ⟨l, hl, hawaits⟩

theorem loadable : db.Loadable where
  executions r hr _ := by
    obtain ⟨l, -, -, -, hload⟩ := h.awaits r hr
    exact hload
  funnels r hr := by
    obtain ⟨row, hfunnels, hload⟩ := h.funnel
    rw [hfunnels, List.mem_singleton] at hr
    exact ⟨f, hr ▸ hload⟩
  leads := h.load_leads

theorem funnel?_eq : db.funnel? f.id = some f := by
  obtain ⟨row, hfunnels, hload⟩ := h.funnel
  have hid : (row.id == f.id) = true := by simp [FunnelRow.id_of_load hload]
  rw [Database.funnel?, Database.funnelRows_of_singleton hfunnels, List.find?_cons, hid]
  show row.load.toOption = _
  rw [hload]
  rfl

theorem lead?_eq {l : Lead} (hl : l ∈ leads) :
    db.lead? l.id = if db.hasLead l.id = true then some l else none := by
  unfold Database.lead?
  cases hfind : db.leadRows.find? fun r => r.id == l.id with
  | none =>
    have hgone : db.hasLead l.id = false := by
      rw [Database.hasLead, List.any_eq_false]
      exact fun r hr => List.find?_eq_none.mp hfind r (mem_inOrder.mpr hr)
    rw [hgone, if_neg Bool.false_ne_true]
    rfl
  | some r =>
    have hr : r ∈ db.leads := mem_inOrder.mp (List.mem_of_find?_eq_some hfind)
    have hid : r.id = l.id := by simpa using List.find?_some hfind
    have hthere : db.hasLead l.id = true :=
      List.any_eq_true.mpr ⟨r, hr, by simpa using hid⟩
    rw [hthere, if_pos rfl, Option.bind_some, h.unchanged l hl r hr hid]
    rfl

theorem dropLead (id : String) : Cohort f leads texts node time (Store.dropLead db id) where
  funnel := h.funnel
  keyed := ⟨h.keyed.nodup, h.keyed.whole⟩
  rows := h.rows
  load_leads r hr := h.load_leads r (List.mem_of_mem_filter hr)
  unchanged l hl r hr := h.unchanged l hl r (List.mem_of_mem_filter hr)

theorem due_eq {now : Calendar.Stamp} (hnow : time ≤ now.instant) : db.due now = db.executions := by
  refine List.filter_eq_self.mpr fun r hr => ?_
  obtain ⟨l, -, hawaits, -⟩ := h.awaits r hr
  exact ExecutionRow.isDue_eq_true_iff.mpr ⟨hawaits.status_eq, hawaits.time_eq ▸ hnow⟩

theorem not_due {now : Calendar.Stamp} (hnow : now.instant < time) :
    ∀ r ∈ db.executions, r.isDue now = false := by
  intro r hr
  obtain ⟨l, -, hawaits, -⟩ := h.awaits r hr
  rw [← Bool.not_eq_true, ExecutionRow.isDue_eq_true_iff, hawaits.time_eq]
  omega

end Cohort

section
variable {f : Funnel} {leads : List Lead} {texts : Context} {node : String} {time : Int}

theorem flatMap_ite_nil {α β : Type} (p : α → Bool) (g : α → List β) (items : List α) :
    (items.flatMap fun a => if p a = true then g a else []) = (items.filter p).flatMap g := by
  induction items with
  | nil => rfl
  | cons a items ih =>
    rw [List.flatMap_cons, ih, List.filter_cons]
    split
    · rw [List.flatMap_cons]
    · rfl

/-- What driving an execution of one of the leads that waits at the node until the time comes to. -/
def DrivesEach (s : Surroundings σ) (now : Calendar.Stamp) (templates : List TemplateRow)
    (f : Funnel) (leads : List Lead) (texts : Context) (node : String) (time : Int)
    (tried : Lead → List Attempt) (Q : ExecutionRow → ExecutionRow → Prop) : Prop :=
  ∀ l ∈ leads, ∀ r e, r.load = .ok e → r.Awaits f.id l.id node time → r.context = texts →
    Drives s now templates (some f) (some l) (tried l) (Q r) r e

/-- A pass at the time or after it drives the executions of the leads that are there, and ends
those of the others. -/
theorem Cohort.drives {p : PassRun σ} (h : Cohort f leads texts node time p.before.database)
    (hs : p.surroundings.Obliging) (haware : p.now.isLocal = false) (hnow : time ≤ p.now.instant)
    {tried : Lead → List Attempt} {Q : ExecutionRow → ExecutionRow → Prop}
    (hdrives : DrivesEach p.surroundings p.now p.before.database.templates f leads texts node time
      tried Q) :
    ∃ g, p.after.database = p.before.database.mapRows g ∧ p.after.database.Keyed ∧
      List.Forall₂ (fun l r => r.Awaits f.id l.id node time ∧ r.context = texts ∧
        if p.before.database.hasLead l.id = true then Q r (g r)
        else r.BecomesEnded (g r)) leads p.before.database.executions ∧
      ∃ new, p.after.attempts = p.before.attempts ++ new ∧
        new.Perm ((leads.filter fun l => p.before.database.hasLead l.id).flatMap tried) := by
  have hunhindered : p.Unhindered := ⟨fun c o _ _ => hs.calls c o, hs.databaseClock, haware⟩
  -- What driving an execution comes to depends on whether its lead is there.
  have hall : ∀ r ∈ p.before.database.due p.now, ∀ e, r.load = .ok e →
      Drives p.surroundings p.now p.before.database.templates
        (p.before.database.funnel? r.funnelId) (p.before.database.lead? r.leadId)
        ((p.before.database.lead? r.leadId).elim [] tried)
        (fun r' => if p.before.database.hasLead r.leadId = true then Q r r'
          else r.BecomesEnded r') r e := by
    intro r hr e he
    obtain ⟨l, hl, hawaits, hcontext, -⟩ := h.awaits r (Database.mem_due.mp hr).1
    rw [hawaits.leadId_eq, h.lead?_eq hl, hawaits.funnelId_eq, h.funnel?_eq]
    by_cases hthere : p.before.database.hasLead l.id = true
    · simp only [if_pos hthere]
      exact hdrives l hl r e he hawaits hcontext
    · simp only [if_neg hthere]
      exact drives_orphan hs he (.inr rfl)
  obtain ⟨g, hdb, hkeyed, hrows, new, hattempts, hperm⟩ :=
    hunhindered.drives h.keyed h.loadable hall
  rw [h.due_eq hnow] at hrows hperm
  refine ⟨g, hdb, hkeyed, ?_, new, hattempts, hperm.trans (.of_eq ?_)⟩
  · refine (((List.forall₂_and_left _ _).mpr ⟨hrows, h.rows.flip⟩).imp ?_).flip
    rintro r l ⟨hQ, hawaits, hcontext, -⟩
    rw [hawaits.leadId_eq] at hQ
    exact ⟨hawaits, hcontext, hQ⟩
  · have hmembers := (List.forall₂_and_left _ _).mpr ⟨fun l hl => hl, h.rows⟩
    rw [← flatMap_ite_nil, List.flatMap_def, List.flatMap_def]
    refine congrArg _ (map_eq_map_of_forall₂ hmembers ?_).symm
    rintro l r ⟨hl, hawaits, -⟩
    rw [hawaits.leadId_eq, h.lead?_eq hl]
    split <;> rfl

/-- A pass that parks each of the executions at another node, while all leads are there, parks the
cohort. -/
theorem Cohort.parks {p : PassRun σ} (h : Cohort f leads texts node time p.before.database)
    (hs : p.surroundings.Obliging) (haware : p.now.isLocal = false) (hnow : time ≤ p.now.instant)
    (hthere : ∀ l ∈ leads, p.before.database.hasLead l.id = true)
    {tried : Lead → List Attempt} {node' : String} {time' : Int}
    (hdrives : DrivesEach p.surroundings p.now p.before.database.templates f leads texts node time
      tried fun r => r.BecomesParked node' time') :
    Cohort f leads texts node' time' p.after.database ∧
      ∃ new, p.after.attempts = p.before.attempts ++ new ∧ new.Perm (leads.flatMap tried) := by
  obtain ⟨g, hdb, hkeyed, hrows, new, hattempts, hperm⟩ := h.drives hs haware hnow hdrives
  rw [List.filter_eq_self.mpr hthere] at hperm
  refine ⟨⟨?_, hkeyed, ?_, ?_, ?_⟩, new, hattempts, hperm⟩
  case refine_1 =>
    rw [hdb]
    exact h.funnel
  case refine_2 =>
    rw [hdb, Database.mapRows, List.forall₂_map_right_iff]
    refine ((List.forall₂_and_left _ _).mpr ⟨fun l hl => hl, hrows⟩).imp ?_
    rintro l r ⟨hl, hawaits, hcontext, hparked⟩
    rw [if_pos (hthere l hl)] at hparked
    obtain ⟨history, hparked⟩ := hparked
    rw [hparked]
    exact ⟨⟨hawaits.funnelId_eq, hawaits.leadId_eq, hawaits.status_eq, rfl, rfl⟩, hcontext, _,
      ExecutionRow.load_parkedAt hawaits.status_eq node' time' history⟩
  case refine_3 =>
    rw [hdb]
    exact h.load_leads
  case refine_4 =>
    rw [hdb]
    exact h.unchanged

end

/-! ## How a cohort begins -/

/-- The leads can be read and told apart, and those that are active can be searched for. -/
structure Database.LeadsInOrder (db : Database) : Prop where
  load : ∀ r ∈ db.leads, ∃ l, LeadRow.load r = .ok l
  nodup : (db.leads.map (·.id)).Nodup
  searchable : ∀ r ∈ db.leads, r.status = Lead.active → r.id ≠ "" ∧ Text.isWhole r.id = true

/-- The funnel is the only one, and nothing is running. -/
structure Database.Offers (db : Database) (f : Funnel) : Prop where
  funnel : ∃ row, db.funnels = [row] ∧ FunnelRow.load row = .ok f ∧ Text.isWhole row.id = true
  executions : db.executions = []
  leads : db.LeadsInOrder

namespace Database.Offers

variable {f : Funnel} (h : db.Offers f)
include h

theorem admitsActive (dedupe : Bool) : db.AdmitsActive dedupe where
  load r hr _ := h.leads.load r hr
  nodup := h.leads.nodup
  admits r hr hstatus := by
    obtain ⟨hne, hwhole⟩ := h.leads.searchable r hr hstatus
    refine ⟨hne, hwhole, fun _ x hx => ?_⟩
    rw [h.executions] at hx
    cases hx

theorem keyed : db.Keyed := by
  constructor <;> simp [h.executions]

theorem eligible_eq (hactive : f.isActive = true) {start : String} (hstart : f.entry? = some start)
    (dedupe : Bool) (leadId : String) :
    db.eligible dedupe f.trigger leadId [f] = [(leadId, f)] := by
  have hrunning : db.isRunning leadId f.id = false := by
    rw [Database.isRunning, h.executions, List.any_nil]
  have heligible : f.isEligible db dedupe f.trigger leadId = true := by
    rw [Funnel.isEligible, hactive, hstart, hrunning, beq_self_eq_true, Bool.and_false]
    rfl
  rw [Database.eligible, List.filter_cons_of_pos heligible]
  rfl

end Database.Offers

theorem World.ready_of_offers {f : Funnel} (h : w.database.Offers f) (hs : s.Obliging) :
    Ready s w := by
  obtain ⟨row, hfunnels, hload, hwhole⟩ := h.funnel
  refine ⟨hs.steady, hs.clock, hs.databaseClock, ?_, ?_, ?_⟩
  case refine_1 =>
    intro k _ r hr
    rw [h.executions] at hr
    cases hr
  all_goals rw [hfunnels, List.forall_mem_singleton]
  · exact ⟨f, hload⟩
  · exact hwhole

/-- A broadcast of the only funnel starts it for each active lead, before anything is driven. -/
theorem run_broadcast_offered {f : Funnel} (h : w.database.Offers f) (hs : s.Obliging)
    (hactive : f.isActive = true) {start : String} (hstart : f.entry? = some start)
    (texts : Context) :
    ∃ leads created w',
      List.Forall₂ (fun r l => LeadRow.load r = .ok l) w.database.activeRows leads ∧
      (broadcast f.trigger (Context.fields texts)).run s w = (driveCreated created).run s w' ∧
      created.length = leads.length ∧ Cohort f leads texts start s.clock.instant w'.database ∧
      w'.attempts = w.attempts ∧ w'.database.leads = w.database.leads ∧
      w'.database.templates = w.database.templates := by
  obtain ⟨row, hfunnels, hload, -⟩ := h.funnel
  have hfs : List.Forall₂ (fun r f => FunnelRow.load r = .ok f) w.database.funnelRows [f] := by
    rw [Database.funnelRows_of_singleton hfunnels]
    exact .cons hload .nil
  obtain ⟨leads, created, w', hleads, hrun, hstarts⟩ :=
    run_broadcast f.trigger texts (World.ready_of_offers h hs) hfs (h.admitsActive _)
  -- One funnel is eligible for each lead, so one execution is started for it.
  have hpairs : (leads.flatMap fun l =>
      w.database.eligible s.policy.dedupe f.trigger l.id [f]) = leads.map fun l => (l.id, f) := by
    rw [List.flatMap_congr fun l _ => h.eligible_eq hactive hstart s.policy.dedupe l.id]
    exact List.flatMap_pure_eq_map _ _
  have hstarted := hstarts.starts
  rw [hpairs, List.forall₂_map_left_iff] at hstarted
  have hdb := hstarts.adds.database_eq
  rw [h.executions, List.nil_append] at hdb
  refine ⟨leads, created, w', hleads, hrun, hstarted.length_eq.symm, ?_, hstarts.attempts_eq,
    by rw [hdb], by rw [hdb]⟩
  refine ⟨⟨row, by rw [hdb]; exact hfunnels, hload⟩, hstarts.adds.keyed h.keyed, ?_, ?_, ?_⟩
  · rw [hdb, List.forall₂_map_right_iff]
    refine ((List.forall₂_and_left _ _).mpr ⟨fun e he => he, hstarted.flip⟩).flip.imp ?_
    rintro l e ⟨he, hstarts'⟩
    obtain ⟨start', hstart', hplace⟩ := hstarts'.place
    obtain rfl : start = start' :=
      Option.some.inj ((Funnel.entry?_eq_some_iff.mp hstart).2.symm.trans hstart')
    exact ⟨⟨hstarts'.funnelId_eq, hstarts'.leadId_eq, hstarts'.status_eq, hplace,
      hstarts'.nextRunAt_eq⟩, hstarts.context_eq e he, _, ExecutionRow.load_eq_ok_iff.mpr
        ⟨.waiting, [], hstarts'.status_eq, .inl hstarts'.history_eq, rfl⟩⟩
  · rw [hdb]
    exact h.leads.load
  · rw [hdb]
    intro l hl r hr hid
    obtain ⟨r', hr', hload'⟩ := exists_mem_of_forall₂ hleads.flip hl
    have hsame : r = r' := List.inj_on_of_nodup_map h.leads.nodup hr
      (Database.mem_activeRows.mp hr').1 (hid.trans (LeadRow.id_of_load hload'))
    rw [hsame, hload']

theorem Cohort.run_driveCreated {f : Funnel} {leads : List Lead} {texts : Context} {node : String}
    (h : Cohort f leads texts node s.clock.instant w.database) {created : List Execution}
    (hcreated : created.length = leads.length) (hs : s.Obliging) (haware : s.clock.isLocal = false)
    (hthere : ∀ l ∈ leads, w.database.hasLead l.id = true)
    {tried : Lead → List Attempt} {node' : String} {time' : Int}
    (hdrives : DrivesEach s s.clock w.database.templates f leads texts node s.clock.instant tried
      fun r => r.BecomesParked node' time') :
    ∃ w', (driveCreated created).run s w = (.ok created, w') ∧
      Cohort f leads texts node' time' w'.database ∧
      ∃ new, w'.attempts = w.attempts ++ new ∧ new.Perm (leads.flatMap tried) := by
  cases created with
  | nil =>
    -- nobody was there to be started, so nothing is driven
    obtain rfl : leads = [] := List.length_eq_zero_iff.mp hcreated.symm
    have hrows : w.database.executions = [] := List.forall₂_nil_left_iff.mp h.rows
    exact ⟨w, rfl, { h with rows := by rw [hrows]; exact .nil }, [], by simp, by simp⟩
  | cons e es =>
    obtain ⟨_, _, _, w', hrun, -⟩ := run_processExecutions h.loadable hs.steady h.keyed haware
    have hpass := h.parks (p := ⟨s, s.clock, w⟩) hs haware (Int.le_refl _) hthere hdrives
    rw [PassRun.after, hrun] at hpass
    refine ⟨w', ?_, hpass⟩
    unfold driveCreated processNow
    rw [List.isEmpty_cons, Bool.not_false, if_pos rfl, Action.bind_assoc,
      run_bind_ok (run_clock s w), run_bind_ok hrun]
    rfl

/-! ## Passes and deletions -/

/-- The operation is a pass, or deletes a lead. -/
inductive Operation.IsPassOrDeletion : Operation → Prop
  | processExecutions (now : Calendar.Stamp) : IsPassOrDeletion (.processExecutions now)
  | processNow : IsPassOrDeletion .processNow
  | deleteLead (id : String) : IsPassOrDeletion (.deleteLead id)

/-- The time of the operation, if it is a pass. -/
def Operation.passTime? (s : Surroundings σ) : Operation → Option Calendar.Stamp
  | processExecutions now => some now
  | processNow => some s.clock
  | _ => none

/-- The operation is a pass at the time or after it. A time whose distance from UTC is unknown
cannot be compared with it. -/
def Operation.IsPassFrom (time : Int) (s : Surroundings σ) (op : Operation) : Prop :=
  ∃ now, op.passTime? s = some now ∧ now.isLocal = false ∧ time ≤ now.instant

section
variable {op : Operation}

theorem Operation.run_act_of_passTime? {now : Calendar.Stamp} (h : op.passTime? s = some now)
    (w : World σ) : (op.act.run s w).2 = (PassRun.mk s now w).after := by
  have hpass : ∀ x : Action σ PassReport, x.run s w = (Nurture.processExecutions now).run s w →
      ((x >>= fun _ => pure ()).run s w).2 = (PassRun.mk s now w).after := by
    intro x hx
    rw [snd_run_bind_pure, hx]
    rfl
  cases op with
  | processExecutions now' =>
    obtain rfl := Option.some.inj h
    exact hpass _ rfl
  | processNow =>
    obtain rfl := Option.some.inj h
    refine hpass Nurture.processNow ?_
    rw [Nurture.processNow, run_bind_ok (run_clock s w)]
  | _ => cases h

theorem Operation.IsPassOrDeletion.act_of_idle (hop : op.IsPassOrDeletion)
    (hidle : ∀ now, op.passTime? s = some now → (PassRun.mk s now w).after.database = w.database ∧
      (PassRun.mk s now w).after.attempts = w.attempts) :
    (op.act.run s w).2.attempts = w.attempts ∧
      ((op.act.run s w).2.database = w.database ∨
        ∃ id, (op.act.run s w).2.database = Store.dropLead w.database id) := by
  cases hop with
  | processExecutions now =>
    obtain ⟨hdb, hattempts⟩ := hidle now rfl
    rw [run_act_of_passTime? rfl]
    exact ⟨hattempts, .inl hdb⟩
  | processNow =>
    obtain ⟨hdb, hattempts⟩ := hidle s.clock rfl
    rw [run_act_of_passTime? rfl]
    exact ⟨hattempts, .inl hdb⟩
  | deleteLead id =>
    have hrun : ((Operation.deleteLead id).act.run s w).2 = ((Store.deleteLead id).run s w).2 :=
      snd_run_bind_pure _ _ s w
    rw [hrun]
    exact ⟨(Store.deleteLead_retains (s := s) id w).attempts_eq,
      (Store.deleteLead_cases id s w).1.imp_right fun hdb => ⟨id, hdb⟩⟩

end

/-- The turn is one of obliging surroundings, and a pass before the time or the deletion of a
lead. -/
structure IsEarly (time : Int) (turn : Surroundings σ × Operation) : Prop where
  obliging : turn.1.Obliging
  operation : turn.2.IsPassOrDeletion
  early : ¬ turn.2.IsPassFrom time turn.1

section
variable {f : Funnel} {leads : List Lead} {texts : Context} {node : String} {time : Int}

/-- Before the time a cohort stays what it is, and no message is attempted. -/
theorem Cohort.act (h : Cohort f leads texts node time w.database) {op : Operation}
    (hturn : IsEarly time (s, op)) :
    Cohort f leads texts node time (op.act.run s w).2.database ∧
      (op.act.run s w).2.attempts = w.attempts ∧
      (op.act.run s w).2.database.executions = w.database.executions := by
  obtain ⟨hattempts, hdb⟩ := hturn.operation.act_of_idle (s := s) (w := w) fun now hnow => by
    cases hlocal : now.isLocal with
    | true =>
      exact PassRun.idle_of_local (p := ⟨s, now, w⟩) hturn.obliging.steady h.keyed h.loadable hlocal
    | false =>
      refine PassRun.idle (p := ⟨s, now, w⟩) h.keyed (h.not_due (?_ : now.instant < time))
      exact Int.not_le.mp fun hle => hturn.early ⟨now, hnow, hlocal, hle⟩
  rcases hdb with hdb | ⟨id, hdb⟩
  · exact ⟨hdb ▸ h, hattempts, congrArg (·.executions) hdb⟩
  · exact ⟨hdb ▸ h.dropLead id, hattempts, congrArg (·.executions) hdb⟩

theorem Cohort.after {turns : List (Surroundings σ × Operation)}
    (hturns : ∀ turn ∈ turns, IsEarly time turn) (h : Cohort f leads texts node time w.database) :
    Cohort f leads texts node time (w.after turns).database ∧
      (w.after turns).attempts = w.attempts ∧
      (w.after turns).database.executions = w.database.executions := by
  induction turns generalizing w with
  | nil => exact ⟨h, rfl, rfl⟩
  | cons turn turns ih =>
    rw [List.forall_mem_cons] at hturns
    obtain ⟨hcohort, hattempts, hexecutions⟩ := h.act hturns.1
    obtain ⟨hcohort', hattempts', hexecutions'⟩ := ih hturns.2 hcohort
    exact ⟨hcohort', hattempts'.trans hattempts, hexecutions'.trans hexecutions⟩

end

/-- No execution waits. -/
structure Database.AllDone (db : Database) : Prop where
  keyed : db.Keyed
  done : ∀ r ∈ db.executions, r.status ≠ Status.waiting.name

/-- The execution is one of the funnel for the lead, and has ended. -/
structure ExecutionRow.HasEnded (funnelId leadId : String) (r : ExecutionRow) : Prop where
  funnelId_eq : r.funnelId = funnelId
  leadId_eq : r.leadId = leadId
  status_eq : r.status = Status.completed.name

/-- A pass that ends each of the executions ends the cohort. -/
theorem Cohort.ends {f : Funnel} {leads : List Lead} {texts : Context} {node : String} {time : Int}
    {p : PassRun σ} (h : Cohort f leads texts node time p.before.database)
    (hs : p.surroundings.Obliging) (haware : p.now.isLocal = false) (hnow : time ≤ p.now.instant)
    {tried : Lead → List Attempt}
    (hdrives : DrivesEach p.surroundings p.now p.before.database.templates f leads texts node time
      tried ExecutionRow.BecomesEnded) :
    p.after.database.AllDone ∧
      List.Forall₂ (fun l r => r.HasEnded f.id l.id) leads p.after.database.executions ∧
      ∃ new, p.after.attempts = p.before.attempts ++ new ∧
        new.Perm ((leads.filter fun l => p.before.database.hasLead l.id).flatMap tried) := by
  obtain ⟨g, hdb, hkeyed, hrows, hnew⟩ := h.drives hs haware hnow hdrives
  have hended : List.Forall₂ (fun l r => r.HasEnded f.id l.id) leads
      p.after.database.executions := by
    rw [hdb, Database.mapRows, List.forall₂_map_right_iff]
    refine hrows.imp ?_
    rintro l r ⟨hawaits, -, hended⟩
    obtain ⟨history, hended⟩ : r.BecomesEnded (g r) := by
      split at hended <;> exact hended
    rw [hended]
    exact ⟨hawaits.funnelId_eq, hawaits.leadId_eq, rfl⟩
  refine ⟨⟨hkeyed, fun r hr => ?_⟩, hended, hnew⟩
  obtain ⟨l, -, hr⟩ := exists_mem_of_forall₂ hended.flip hr
  rw [hr.status_eq]
  decide

theorem Database.AllDone.act (h : w.database.AllDone) {op : Operation}
    (hop : op.IsPassOrDeletion) :
    (op.act.run s w).2.database.AllDone ∧ (op.act.run s w).2.attempts = w.attempts ∧
      (op.act.run s w).2.database.executions = w.database.executions := by
  obtain ⟨hattempts, hdb⟩ := hop.act_of_idle (s := s) (w := w) fun now _ => by
    refine PassRun.idle (p := ⟨s, now, w⟩) h.keyed fun r hr => ?_
    rw [← Bool.not_eq_true, ExecutionRow.isDue_eq_true_iff]
    exact fun hdue => h.done r hr hdue.1
  rcases hdb with hdb | ⟨id, hdb⟩
  · exact ⟨hdb ▸ h, hattempts, congrArg (·.executions) hdb⟩
  · exact ⟨hdb ▸ ⟨⟨h.keyed.nodup, h.keyed.whole⟩, h.done⟩, hattempts, congrArg (·.executions) hdb⟩

theorem Database.AllDone.after {turns : List (Surroundings σ × Operation)}
    (hturns : ∀ turn ∈ turns, turn.2.IsPassOrDeletion) (h : w.database.AllDone) :
    (w.after turns).attempts = w.attempts ∧
      (w.after turns).database.executions = w.database.executions := by
  induction turns generalizing w with
  | nil => exact ⟨rfl, rfl⟩
  | cons turn turns ih =>
    rw [List.forall_mem_cons] at hturns
    obtain ⟨hdone, hattempts, hexecutions⟩ := h.act hturns.1
    obtain ⟨hattempts', hexecutions'⟩ := ih hturns.2 hdone
    exact ⟨hattempts'.trans hattempts, hexecutions'.trans hexecutions⟩

end Nurture
