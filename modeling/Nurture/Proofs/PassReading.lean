import Nurture.Proofs.Passes

/-!
  A pass reads, then drives

  A pass is two actions, one after the other (`processExecutions_eq`): `readDue` lists the
  executions that are due and, if there are any, the funnels and the leads; `driveDue` drives
  them. The first one attempts no message and changes nothing, whatever it comes to.
-/

namespace Nurture

variable {σ : Type} {s : Surroundings σ} {now : Calendar.Stamp}

/-- What a pass reads: the executions that are due, and the funnels and the leads if there are
any. -/
def readDue (now : Calendar.Stamp) : Action σ (List Execution × List Funnel × List Lead) := do
  let reply ← Store.listExecutions (some Status.waiting.name) none none
  let waiting ← Action.ofExcept (reply.records "is_completed")
  let due ← Action.ofExcept (dueAt now waiting)
  if due.isEmpty then return ([], [], [])
  else
    let reply ← Store.listFunnels
    let funnels ← Action.ofExcept (reply.records "id")
    let reply ← Store.allLeads
    let leads ← Action.ofExcept (reply.records "id")
    return (due, funnels, leads)

/-- Drives what was read. -/
def driveDue (now : Calendar.Stamp) (due : List Execution) (funnels : List Funnel)
    (leads : List Lead) : Action σ PassReport := do
  if due.isEmpty then return .empty
  else
    let departures ← Action.collect (processDue funnels leads now) due
    let report := PassReport.ofDepartures departures
    Action.note [.passed report]
    return report

theorem processExecutions_eq (now : Calendar.Stamp) :
    (processExecutions now : Action σ PassReport)
      = readDue now >>= fun read => driveDue now read.1 read.2.1 read.2.2 := by
  unfold processExecutions readDue
  simp only [Action.bind_assoc]
  congr 1
  funext reply
  congr 1
  funext waiting
  congr 1
  funext due
  cases due with
  | nil => rfl
  | cons e rest =>
    simp only [List.isEmpty_cons, Bool.false_eq_true, if_false, Action.bind_assoc]
    rfl

/-- What is read before anything is driven. -/
structure ReadsDue (now : Calendar.Stamp) (db : Database) (due : List Execution)
    (funnels : List Funnel) (leads : List Lead) : Prop where
  rows : ∃ rows, Loads rows due ∧ (∀ r ∈ rows, r ∈ db.due now) ∧ (rows.map (·.id)).Nodup
  /-- If any execution is due, all that are due are read. -/
  all : due ≠ [] → ∃ rows, Loads rows due ∧ rows.Perm (db.due now)
  funnels : funnels = [] ∨
    List.Forall₂ (fun r f => FunnelRow.load r = .ok f) db.funnelRows funnels
  leads : leads = [] ∨ List.Forall₂ (fun r l => LeadRow.load r = .ok l) db.leadRows leads

theorem ReadsDue.validated {db : Database} {due : List Execution} {funnels : List Funnel}
    {leads : List Lead} (h : ReadsDue now db due funnels leads) : ∀ f ∈ funnels, f.Validated := by
  rcases h.funnels with rfl | hloads
  · simp
  · exact FunnelRow.validated_of_forall₂ hloads

section
variable {α β γ : Type} {rows : Database → List α} {load : α → Except Failure β}
  {x : Action σ (Reply (List β))} {k : List β → Action σ γ} {part : String} {c : γ}
  {w w₂ : World σ}

theorem Lists.fetched (hx : Lists s x rows load)
    (h : (x >>= fun reply => Action.ofExcept (reply.records part) >>= k).run s w = (.ok c, w₂)) :
    ∃ items w₁, (items = [] ∨ List.Forall₂ (fun r b => load r = .ok b) (rows w.database) items) ∧
      w₁.database = w.database ∧ (k items).run s w₁ = (.ok c, w₂) := by
  obtain ⟨reply, w₁, hrun, h⟩ := Action.run_bind_eq_ok h
  obtain ⟨items, hitems, h⟩ := Action.run_ofExcept_bind_eq_ok h
  obtain ⟨hdb, -⟩ := hx.quiet.same_of_run hrun
  refine ⟨items, w₁, ?_, hdb, h⟩
  rcases records_eq_ok hitems with rfl | rfl
  · exact .inr (hx.own w items (by rw [hrun]))
  · exact .inl rfl

end

theorem listWaiting_lists : Lists s (Store.listExecutions (some Status.waiting.name) none none)
    Database.waitingRows ExecutionRow.load := by
  rw [listWaiting_eq]
  exact .guarded

theorem listFunnels_lists : Lists s Store.listFunnels Database.funnelRows FunnelRow.load := by
  rw [listFunnels_eq]
  exact .guarded

theorem allLeads_lists : Lists s Store.allLeads Database.leadRows LeadRow.load := by
  rw [allLeads_eq]
  exact .relayed .guarded

theorem readDue_reads {w w₁ : World σ} (hk : w.database.Keyed) {due : List Execution}
    {funnels : List Funnel} {leads : List Lead}
    (h : (readDue now).run s w = (.ok (due, funnels, leads), w₁)) :
    ReadsDue now w.database due funnels leads := by
  obtain ⟨waiting, w₂, hwaiting, hdb, h⟩ := listWaiting_lists.fetched h
  obtain ⟨due', hdue, h⟩ := Action.run_ofExcept_bind_eq_ok h
  have hrows := exists_due_rows now hk hwaiting
  have hall : due' ≠ [] → ∃ rows, Loads rows due' ∧ rows.Perm (w.database.due now) := by
    intro hne
    rcases hwaiting with rfl | hloads
    · exact absurd (dueAt_eq_ok hdue) hne
    · exact ⟨_, dueAt_eq_ok hdue ▸ Loads.due hloads, w.database.waitingRows_due_perm⟩
  rw [← dueAt_eq_ok hdue] at hrows
  cases due' with
  | nil =>
    cases h
    exact ⟨hrows, hall, .inl rfl, .inl rfl⟩
  | cons e rest =>
    obtain ⟨funnels', w₃, hfunnels, hdb₃, h⟩ := listFunnels_lists.fetched h
    obtain ⟨leads', w₄, hleads, hdb₄, h⟩ := allLeads_lists.fetched h
    cases h
    rw [hdb] at hfunnels hdb₃
    rw [hdb₃] at hleads
    exact ⟨hrows, hall, hfunnels, hleads⟩

open Nurture.Action

theorem readDue_quiet (s : Surroundings σ) (now : Calendar.Stamp) : Quiet s (readDue now) := by
  unfold readDue
  refine Quiet.bind' listWaiting_lists.quiet fun _ => ?_
  refine Quiet.bind' (Quiet.ofExcept' _) fun waiting => ?_
  refine Quiet.bind' (Quiet.ofExcept' _) fun due => ?_
  split
  · exact Quiet.pure' _
  · refine Quiet.bind' listFunnels_lists.quiet fun _ => ?_
    refine Quiet.bind' (Quiet.ofExcept' _) fun funnels => ?_
    refine Quiet.bind' allLeads_lists.quiet fun _ => ?_
    exact Quiet.bind' (Quiet.ofExcept' _) fun leads => Quiet.pure' _

theorem isDue_of_readDue {due : List Execution} {funnels : List Funnel} {leads : List Lead}
    {w w₁ : World σ} (h : (readDue now).run s w = (.ok (due, funnels, leads), w₁)) :
    ∀ e ∈ due, e.isDue now = true := by
  obtain ⟨waiting, w₂, -, -, h⟩ := listWaiting_lists.fetched h
  obtain ⟨due', hdue, h⟩ := Action.run_ofExcept_bind_eq_ok h
  have hall : ∀ e ∈ due', e.isDue now = true := by
    rw [dueAt_eq_ok hdue]
    exact fun e he => (List.mem_filter.mp he).2
  cases due' with
  | nil =>
    cases h
    exact hall
  | cons e rest =>
    obtain ⟨funnels', w₃, -, -, h⟩ := listFunnels_lists.fetched h
    obtain ⟨leads', w₄, -, -, h⟩ := allLeads_lists.fetched h
    cases h
    exact hall

/-! ## Driving what was read -/

theorem run_driveDue_of_collect {funnels : List Funnel} {leads : List Lead} {due : List Execution}
    {departures : List Departure} {w w' : World σ}
    (h : (collect (processDue funnels leads now) due).run s w = (.ok departures, w')) :
    ∃ w'', (driveDue now due funnels leads).run s w = (.ok (.ofDepartures departures), w'') ∧
      w''.database = w'.database ∧ w''.attempts = w'.attempts := by
  cases due with
  | nil =>
    cases h
    exact ⟨w, rfl, rfl, rfl⟩
  | cons e rest =>
    unfold driveDue
    rw [List.isEmpty_cons, if_neg Bool.false_ne_true, run_bind_ok h]
    exact ⟨_, rfl, rfl, rfl⟩

/-- A pass came to these tables by driving some of the rows that were due. -/
def DroveSome (s : Surroundings σ) (now : Calendar.Stamp) (db db' : Database) : Prop :=
  ∃ rows answers g, (∀ r ∈ rows, r ∈ db.due now) ∧ Passed s now db rows answers g db'

theorem DroveSome.nothing (db : Database) : DroveSome s now db db :=
  ⟨[], [], id, by simp, .nothing db⟩

/-- Each row is what it was, or it was due and its execution was driven. -/
theorem DroveSome.rows {db db' : Database} (h : DroveSome s now db db') (hk : db.Keyed) :
    db'.Keyed ∧ ∃ g, db' = db.mapRows g ∧ ∀ r ∈ db.executions, g r = r ∨
      r.isDue now = true ∧ ∃ e answer, r.load = .ok e ∧ Drove s now r e.history answer (g r) := by
  obtain ⟨rows, answers, g, hdue, hpassed⟩ := h
  refine ⟨hpassed.keyed hk, g, hpassed.database, fun r hr => ?_⟩
  by_cases hmem : r.id ∈ rows.map (·.id)
  · -- the row was driven
    obtain ⟨r', hr', hid⟩ := List.mem_map.mp hmem
    obtain ⟨hin, hdue⟩ := Database.mem_due.mp (hdue r' hr')
    obtain rfl : r' = r := hk.eq_of_id hin hr hid
    obtain ⟨answer, -, e, hload, hdrove⟩ := exists_mem_of_forall₂ hpassed.drove hr'
    exact .inr ⟨hdue, e, answer, hload, hdrove⟩
  · exact .inl (hpassed.untouched r hmem)

/-- Whatever comes in the way of a pass, it drives some of the rows that are due, one after the
other. -/
theorem processExecutions_droveSome {w : World σ} (hk : w.database.Keyed) :
    DroveSome s now w.database ((processExecutions now).run s w).2.database := by
  rw [processExecutions_eq, run_bind]
  rcases hread : (readDue now).run s w with ⟨e | ⟨due, funnels, leads⟩, w₁⟩
  · -- nothing has been driven
    obtain ⟨hdb, -⟩ := (readDue_quiet s now).same_of_run hread
    dsimp only
    rw [hdb]
    exact .nothing _
  · obtain ⟨hdb, -⟩ := (readDue_quiet s now).same_of_run hread
    dsimp only
    have hreads := readDue_reads hk hread
    obtain ⟨rows, hload, hdue, hnodup⟩ := hreads.rows
    rw [← hdb] at hk hdue ⊢
    obtain ⟨answers, w₂, g, hcollect, hpassed⟩ := collect_passed (s := s) leads now
      hreads.validated hload hk (fun r hr => List.mem_of_mem_filter (hdue r hr)) hnodup
    obtain ⟨w₃, hrun, hdb₃, -⟩ := run_driveDue_of_collect hcollect
    rw [hrun, hdb₃]
    exact ⟨rows, answers, g, hdue, hpassed⟩

end Nurture
