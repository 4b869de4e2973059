import Nurture.Proofs.PassReading

/-!
  The report of a pass

  The report counts answers, the tables show rows: `processExecutions_exact` says that
  they agree. Each row that was due is in exactly one of the three counts, and which one can be
  read off the row itself: it has ended, or it waits with a longer history, or
  it is what it was. Writes may fail and handlers may break at will. The time
  must be one whose distance from UTC is known: any other cannot be compared with
  those of the rows, and the pass breaks off before it has begun (`processExecutions_local`).
-/

namespace Nurture

variable {σ : Type} {s : Surroundings σ} {now : Calendar.Stamp}

/-! ## What a row tells of its driving -/

/-- How many entries the history of a row has. -/
def ExecutionRow.steps (r : ExecutionRow) : Nat :=
  match r.history with
  | .arr items => items.length
  | _ => 0

theorem ExecutionRow.Holds.steps_eq {r : ExecutionRow} {history : List Json.Fields}
    (h : r.Holds history) : r.steps = history.length := by
  unfold ExecutionRow.steps
  rcases h with h | ⟨hg, rfl⟩
  · rw [h, Execution.historyJson]
    simp
  · split
    · rename_i items hitems
      rw [hitems] at hg
      simpa [Json.isGiven] using hg
    · rfl

section
variable {r r' : ExecutionRow} {e : Execution} {answer : Except Failure Departure}

theorem ExecutionRow.steps_parkedAt (node : String) (resumeAt : Int) (more : List Json.Fields) :
    (r.parkedAt node resumeAt more).steps = more.length :=
  List.length_map _

/-- The departure of an execution that waited can be read off its row. -/
theorem Drove.departure_iff (hload : r.load = .ok e) (hwaits : r.status = Status.waiting.name)
    (hs : ¬ Answered s) (h : Drove s now r e.history answer r') :
    (r'.status = Status.completed.name ↔ departureOf answer = .completed) ∧
    (r'.status = Status.waiting.name ∧ r.steps < r'.steps ↔ departureOf answer = .suspended) ∧
    (r' = r ↔ departureOf answer = .failed) := by
  obtain ⟨status, history, -, hh, rfl⟩ := ExecutionRow.load_eq_ok_iff.mp hload
  have hne : Status.waiting.name ≠ Status.completed.name := by decide
  have hsteps := hh.steps_eq
  cases h with
  | completed more =>
    refine ⟨by simp [ExecutionRow.ended, departureOf], ?_, ?_⟩
    · simp [ExecutionRow.ended, departureOf, hne.symm]
    · simp only [departureOf, reduceCtorEq, iff_false]
      intro heq
      exact hne (hwaits.symm.trans (congrArg (·.status) heq).symm)
  | @suspended f ctx n node resumeAt more hf hn hnow hwait hmore =>
    -- An entry about the node was added, so the row is not what it was.
    have hlonger : r.steps < (r.parkedAt node resumeAt.instant (history ++ more)).steps := by
      rw [hsteps, ExecutionRow.steps_parkedAt, List.length_append]
      have := List.length_pos_iff.mpr hmore
      omega
    refine ⟨?_, ?_, ?_⟩
    · simp [ExecutionRow.parkedAt, departureOf, hwaits, hne]
    · simp only [departureOf, iff_true]
      exact ⟨hwaits, hlonger⟩
    · simp only [departureOf, reduceCtorEq, iff_false]
      intro heq
      exact absurd (congrArg ExecutionRow.steps heq) (Nat.ne_of_gt hlonger)
  | failed => simp [departureOf, hwaits, hne]
  | broke cause => simp [departureOf, hwaits, hne]
  | answered h => exact absurd h hs

end

/-- A departure is counted as often as rows tell of it. -/
theorem count_departures {R : ExecutionRow → Except Failure Departure → Prop}
    {rows : List ExecutionRow} {answers : List (Except Failure Departure)} {d : Departure}
    {p : ExecutionRow → Prop} [DecidablePred p] (h : List.Forall₂ R rows answers)
    (hp : ∀ r ∈ rows, ∀ answer, R r answer → (p r ↔ departureOf answer = d)) :
    (answers.map departureOf).count d = rows.countP (fun r => p r) := by
  induction h with
  | nil => rfl
  | @cons r answer rows answers hr _ ih =>
    have htail := ih fun r' hr' => hp r' (List.mem_cons_of_mem r hr')
    have hhead := hp r List.mem_cons_self answer hr
    rw [List.map_cons, List.count_cons, List.countP_cons, htail]
    by_cases hd : departureOf answer = d
    · simp [hd, hhead.mpr hd]
    · have hpr : ¬ p r := fun h => hd (hhead.mp h)
      simp [hd, hpr]

/-! ## Passes in which only writes and handlers break -/

/-- Nothing comes in the way but exceptions in the place of writes, and what comes in the way of
handlers. -/
def Steady (s : Surroundings σ) : Prop :=
  ∀ c o i, (s.interrupt c o).1 = some i →
    c = .runNode ∨ c = .getTemplate ∨ c = .updateExecution ∧ ∃ reason, i = .breaks reason

/-- The rows that a pass reads can be read. -/
structure Database.Loadable (db : Database) : Prop where
  executions : ∀ r ∈ db.executions, r.status = Status.waiting.name → ∃ e, r.load = .ok e
  funnels : ∀ r ∈ db.funnels, ∃ f, FunnelRow.load r = .ok f
  leads : ∀ r ∈ db.leads, ∃ l, LeadRow.load r = .ok l

theorem Steady.none_of {c : Call} (hs : Steady s) (hc : c ≠ .runNode) (hc' : c ≠ .getTemplate)
    (hc'' : c ≠ .updateExecution) (o : σ) : (s.interrupt c o).1 = none := by
  cases hi : (s.interrupt c o).1 with
  | none => rfl
  | some i =>
    rcases hs c o i hi with h | h | ⟨h, -⟩
    · exact absurd h hc
    · exact absurd h hc'
    · exact absurd h hc''

theorem Steady.not_answered (hs : Steady s) : ¬ Answered s := by
  rintro ⟨o, j, hj⟩
  rcases hs _ o _ hj with h | h | ⟨-, reason, h⟩
  · cases h
  · cases h
  · cases h

theorem Surroundings.calm_steady {t : Calendar.Stamp} {p : Policy} : Steady (.calm t p) := by
  intro c o i h
  cases h

section
variable {α β : Type} {c : Call} {w : World σ}

theorem run_listing_of_loads (rows : Database → List α) (load : α → Except Failure β)
    {items : List β} (hs : (s.interrupt c w.outside).1 = none)
    (hload : List.Forall₂ (fun r b => load r = .ok b) (rows w.database) items) :
    ∃ o, (Action.guarded c (Action.listing rows load)).run s w
      = (.ok (.own items), { w with outside := o }) := by
  refine ⟨(s.interrupt c w.outside).2, ?_⟩
  rw [Action.guarded, Action.relayed_of_none hs, Action.run_map, run_listing,
    mapM_eq_ok_iff.mpr hload]
  rfl

theorem run_listing_of_none (rows : Database → List α) (load : α → Except Failure β)
    (hs : (s.interrupt c w.outside).1 = none)
    (hload : ∀ r ∈ rows w.database, ∃ b, load r = .ok b) :
    ∃ items o, (Action.guarded c (Action.listing rows load)).run s w
        = (.ok (.own items), { w with outside := o }) ∧
      List.Forall₂ (fun r b => load r = .ok b) (rows w.database) items := by
  obtain ⟨items, hitems⟩ := exists_forall₂ hload
  obtain ⟨o, hrun⟩ := run_listing_of_loads rows load hs hitems
  exact ⟨items, o, hrun, hitems⟩

end

theorem dueAt_of_known {waiting : List Execution} (hnow : now.isLocal = false) :
    dueAt now waiting = .ok (waiting.filter (·.isDue now)) := by
  unfold dueAt
  rw [hnow]
  rfl

theorem run_processExecutions_of_reads {w w₁ : World σ} (hk : w.database.Keyed)
    {due : List Execution} {funnels : List Funnel} {leads : List Lead} {rows : List ExecutionRow}
    (hread : (readDue now).run s w = (.ok (due, funnels, leads), w₁)) (hload : Loads rows due)
    (hperm : rows.Perm (w.database.due now)) :
    ∃ answers g w', (processExecutions now).run s w
        = (.ok (PassReport.ofDepartures (answers.map departureOf)), w') ∧
      rows.Perm (w.database.due now) ∧ Passed s now w.database rows answers g w'.database := by
  have hvalid : ∀ f ∈ funnels, f.Validated := (readDue_reads hk hread).validated
  have hnodup : (rows.map (·.id)).Nodup := by
    rw [(hperm.map _).nodup_iff]
    exact hk.nodup.sublist (List.filter_sublist.map _)
  obtain ⟨hdb, -⟩ := (readDue_quiet s now).same_of_run hread
  rw [← hdb] at hk
  obtain ⟨answers, w₂, g, hcollect, hpassed⟩ := collect_passed (s := s) leads now hvalid hload hk
    (fun r hr => hdb ▸ List.mem_of_mem_filter (hperm.mem_iff.mp hr)) hnodup
  obtain ⟨w₃, hrun, hdb₃, -⟩ := run_driveDue_of_collect hcollect
  refine ⟨answers, g, w₃, ?_, hperm, ?_⟩
  · rw [processExecutions_eq, Action.run_bind_ok hread, hrun]
  · rw [hdb₃, ← hdb]
    exact hpassed

section
variable {w : World σ} (hl : w.database.Loadable) (hs : Steady s)
include hl hs

theorem run_listWaiting : ∃ es o,
    (Store.listExecutions (some Status.waiting.name) none none).run s w
        = (.ok (.own es), { w with outside := o }) ∧ Loads w.database.waitingRows es := by
  rw [listWaiting_eq]
  refine run_listing_of_none _ _ (hs.none_of (by decide) (by decide) (by decide) _) fun r hr => ?_
  obtain ⟨hmem, hstatus⟩ := List.mem_filter.mp (mem_inOrder.mp hr)
  exact hl.executions r hmem (eq_of_beq hstatus)

theorem run_listFunnels : ∃ funnels o,
    Store.listFunnels.run s w = (.ok (.own funnels), { w with outside := o }) ∧
      List.Forall₂ (fun r f => FunnelRow.load r = .ok f) w.database.funnelRows funnels := by
  rw [listFunnels_eq]
  exact run_listing_of_none Database.funnelRows FunnelRow.load
    (hs.none_of (by decide) (by decide) (by decide) _) fun r hr => hl.funnels r (mem_inOrder.mp hr)

theorem run_allLeads : ∃ leads o,
    Store.allLeads.run s w = (.ok (.own leads), { w with outside := o }) ∧
      List.Forall₂ (fun r l => LeadRow.load r = .ok l) w.database.leadRows leads := by
  rw [allLeads_eq,
    Action.relayed_of_none (hs.none_of (by decide) (by decide) (by decide) w.outside)]
  exact run_listing_of_none
    (w := { w with outside := (s.interrupt .allLeads w.outside).2 }) Database.leadRows LeadRow.load
    (hs.none_of (by decide) (by decide) (by decide) _) fun r hr => hl.leads r (mem_inOrder.mp hr)

/-- What a pass reads: the executions that are due and, if there are any, the funnels and the
leads. -/
structure Reads (s : Surroundings σ) (now : Calendar.Stamp) (w : World σ) (due : List Execution)
    (funnels : List Funnel) (leads : List Lead) (w₁ : World σ) : Prop where
  run : (readDue now).run s w = (.ok (due, funnels, leads), w₁)
  database_eq : w₁.database = w.database
  load_due : Loads (w.database.waitingRows.filter (·.isDue now)) due
  load_funnels : due ≠ [] →
    List.Forall₂ (fun r f => FunnelRow.load r = .ok f) w.database.funnelRows funnels
  load_leads : due ≠ [] →
    List.Forall₂ (fun r l => LeadRow.load r = .ok l) w.database.leadRows leads

/-- Where the time can be compared, a pass reads all that it needs. -/
theorem readDue_known (hnow : now.isLocal = false) :
    ∃ due funnels leads w₁, Reads s now w due funnels leads w₁ := by
  obtain ⟨waiting, o₁, hlist, hwaiting⟩ := run_listWaiting hl hs
  have hat : dueAt now waiting = .ok (waiting.filter (·.isDue now)) := dueAt_of_known hnow
  have hdue : Loads (w.database.waitingRows.filter (·.isDue now))
    (waiting.filter (·.isDue now)) := hwaiting.due
  generalize waiting.filter (·.isDue now) = due at hat hdue
  generalize hw₁ : { w with outside := o₁ } = w₁ at hlist
  have hdb₁ : w₁.database = w.database := by rw [← hw₁]
  obtain ⟨funnels, o₂, hrun₂, hfunnels⟩ := run_listFunnels (hdb₁ ▸ hl) hs
  obtain ⟨leads, o₃, hrun₃, hleads⟩ := run_allLeads (w := { w₁ with outside := o₂ }) (hdb₁ ▸ hl) hs
  rw [hdb₁] at hfunnels
  change List.Forall₂ _ w₁.database.leadRows leads at hleads
  rw [hdb₁] at hleads
  have hrun : (readDue now).run s w = (if due.isEmpty then return ([], [], [])
    else do
      let reply ← Store.listFunnels
      let funnels ← Action.ofExcept (reply.records "id")
      let reply ← Store.allLeads
      let leads ← Action.ofExcept (reply.records "id")
      return (due, funnels, leads) :
        Action σ (List Execution × List Funnel × List Lead)).run s w₁ := by
    unfold readDue
    rw [Action.run_bind_ok hlist, Reply.records_own,
      Action.run_bind_ok (Action.run_ofExcept _ s w₁), hat,
      Action.run_bind_ok (Action.run_ofExcept _ s w₁)]
  cases due with
  | nil =>
    -- Neither funnels nor leads are asked for.
    exact ⟨[], [], [], w₁, hrun, hdb₁, hdue, fun h => absurd rfl h, fun h => absurd rfl h⟩
  | cons e es =>
    refine ⟨e :: es, funnels, leads, { w₁ with outside := o₃ }, hrun.trans ?_, hdb₁, hdue,
      fun _ => hfunnels, fun _ => hleads⟩
    rw [List.isEmpty_cons]
    change (Store.listFunnels >>= _).run s w₁ = _
    rw [Action.run_bind_ok hrun₂, Reply.records_own,
      Action.run_bind_ok (Action.run_ofExcept _ s _), Action.run_bind_ok hrun₃,
      Reply.records_own, Action.run_bind_ok (Action.run_ofExcept _ s _)]
    rfl

theorem run_processExecutions (hk : w.database.Keyed) (hnow : now.isLocal = false) :
    ∃ rows answers g w', (processExecutions now).run s w
        = (.ok (PassReport.ofDepartures (answers.map departureOf)), w') ∧
      rows.Perm (w.database.due now) ∧ Passed s now w.database rows answers g w'.database := by
  obtain ⟨due, funnels, leads, w₀, h⟩ := readDue_known hl hs hnow
  exact ⟨_, run_processExecutions_of_reads hk h.run h.load_due w.database.waitingRows_due_perm⟩

end

/-! ## The report -/

open Classical in
/-- The report counts what became of the rows that were due, each of which `g` says, and nothing
else was changed. -/
structure ExactReport (now : Calendar.Stamp) (db : Database) (report : PassReport)
    (g : ExecutionRow → ExecutionRow) (db' : Database) : Prop where
  /-- Funnels, leads and templates are what they were, and rows of executions stay in their
  places. -/
  tables : db' = { db with executions := db.executions.map g }
  ids : ∀ r, (g r).id = r.id
  /-- Rows that were not due, among them those that had ended, are what they were. -/
  others : ∀ r ∈ db.executions, r.isDue now = false → g r = r
  due : report.due = (db.due now).length
  sum : report.due = report.completed + report.suspended + report.failed
  completed : report.completed
    = (db.due now).countP (fun r => (g r).status = Status.completed.name)
  suspended : report.suspended
    = (db.due now).countP (fun r => (g r).status = Status.waiting.name ∧ r.steps < (g r).steps)
  failed : report.failed = (db.due now).countP (fun r => g r = r)

section
variable {db db' : Database} {rows : List ExecutionRow}
  {answers : List (Except Failure Departure)} {g : ExecutionRow → ExecutionRow}

theorem Passed.count_eq {d : Departure} {p : ExecutionRow → Prop} [DecidablePred p]
    (h : Passed s now db rows answers g db') (hperm : rows.Perm (db.due now))
    (hp : ∀ r ∈ db.due now, ∀ e answer, r.load = .ok e → Drove s now r e.history answer (g r) →
      (p r ↔ departureOf answer = d)) :
    ((answers.map departureOf).count d : Int) = (db.due now).countP (fun r => p r) := by
  have hcount : (answers.map departureOf).count d = rows.countP (fun r => p r) := by
    refine count_departures h.drove ?_
    rintro r hr answer ⟨e, hload, hdrove⟩
    exact hp r (hperm.mem_iff.mp hr) e answer hload hdrove
  calc ((answers.map departureOf).count d : Int)
      = rows.countP (fun r => p r) := congrArg Nat.cast hcount
    _ = (db.due now).countP (fun r => p r) := by rw [hperm.countP_eq]

theorem Passed.eq_of_not_due (h : Passed s now db rows answers g db') (hk : db.Keyed)
    (hperm : rows.Perm (db.due now)) {r : ExecutionRow} (hr : r ∈ db.executions)
    (hnot : r.isDue now = false) : g r = r := by
  refine h.untouched r fun hmem => ?_
  obtain ⟨r', hr', hid⟩ := List.mem_map.mp hmem
  obtain ⟨hin, hdue⟩ := Database.mem_due.mp (hperm.mem_iff.mp hr')
  rw [hk.eq_of_id hr hin hid.symm, hdue] at hnot
  exact Bool.noConfusion hnot

/-- The answers of a pass that drove all that was due make an exact report. -/
theorem Passed.exactReport (h : Passed s now db rows answers g db') (hk : db.Keyed)
    (hs : ¬ Answered s) (hperm : rows.Perm (db.due now)) :
    ExactReport now db (.ofDepartures (answers.map departureOf)) g db' := by
  classical
  have hiff : ∀ r ∈ db.due now, ∀ e answer, r.load = .ok e →
      Drove s now r e.history answer (g r) →
      ((g r).status = Status.completed.name ↔ departureOf answer = .completed) ∧
      ((g r).status = Status.waiting.name ∧ r.steps < (g r).steps
        ↔ departureOf answer = .suspended) ∧
      (g r = r ↔ departureOf answer = .failed) := by
    intro r hr e answer hload hdrove
    obtain ⟨-, hdue⟩ := Database.mem_due.mp hr
    exact hdrove.departure_iff hload (ExecutionRow.isDue_eq_true_iff.mp hdue).1 hs
  exact
    { tables := h.database
      ids := h.id_eq
      others := fun r hr hnot => h.eq_of_not_due hk hperm hr hnot
      due := by
        show ((answers.map departureOf).length : Int) = _
        rw [List.length_map, ← h.drove.length_eq, hperm.length_eq]
      sum := PassReport.ofDepartures_sum _
      completed := h.count_eq hperm fun r hr e answer hload hdrove =>
        (hiff r hr e answer hload hdrove).1
      suspended := h.count_eq hperm fun r hr e answer hload hdrove =>
        (hiff r hr e answer hload hdrove).2.1
      failed := h.count_eq hperm fun r hr e answer hload hdrove =>
        (hiff r hr e answer hload hdrove).2.2 }

end

/-- A pass at a known time returns an exact report, whatever writes and handlers do. -/
theorem processExecutions_exact {w : World σ} (hk : w.database.Keyed) (hl : w.database.Loadable)
    (hs : Steady s) (hnow : now.isLocal = false) :
    ∃ report w' g, (processExecutions now).run s w = (.ok report, w') ∧
      ExactReport now w.database report g w'.database := by
  obtain ⟨rows, answers, g, w', hrun, hperm, hpassed⟩ := run_processExecutions hl hs hk hnow
  exact ⟨_, w', g, hrun, hpassed.exactReport hk hs.not_answered hperm⟩

namespace Newsletter

def leadRow : LeadRow := ⟨lead.id, lead.email, lead.name, "", Lead.active, [], "new", none, 0⟩

/-- A second execution, of a funnel that is gone. -/
def orphan : ExecutionRow := { row with id := "exec-2", funnelId := "funnel-9" }

/-- Two executions are due. -/
def crowded : World Nat :=
  { World.fresh 0 with database := ⟨[funnel.toRow 0], [row, orphan], [leadRow], []⟩ }

/-- The first write breaks, and nothing else does. -/
def shaky : Surroundings Nat where
  clock := start
  databaseClock := start
  policy := .usual .utc 2
  deliver _ o := (.accepted, o)
  interrupt c o :=
    if c = .updateExecution then (if o = 0 then some (.breaks "db gone") else none, o + 1)
    else (none, o)

theorem shaky_steady : Steady shaky := by
  intro c o i h
  by_cases hc : c = .updateExecution
  · by_cases ho : o = 0
    · simp only [shaky, hc, ho, if_true, Option.some.injEq] at h
      exact .inr (.inr ⟨hc, _, h.symm⟩)
    · simp [shaky, hc, ho] at h
  · simp [shaky, hc] at h

theorem crowded_loadable : crowded.database.Loadable where
  executions := by
    intro r hr _
    simp only [crowded, List.mem_cons, List.not_mem_nil, or_false] at hr
    rcases hr with rfl | rfl
    · exact ⟨execution, load_row⟩
    · exact ⟨orphan.toExecution .waiting [],
        ExecutionRow.load_eq_ok_iff.mpr ⟨.waiting, [], rfl, .inl rfl, rfl⟩⟩
  funnels := by
    intro r hr
    obtain rfl := List.mem_singleton.mp hr
    exact ⟨_, rfl⟩
  leads := by
    intro r hr
    obtain rfl := List.mem_singleton.mp hr
    exact ⟨_, rfl⟩

/-- Of two executions one keeps its row since the write breaks. -/
theorem crowded_report :
    (crowded.database.Keyed ∧ crowded.database.Loadable ∧ Steady shaky ∧ start.isLocal = false) ∧
    ∃ report w' g, (processExecutions start).run shaky crowded = (.ok report, w') ∧
      ExactReport start crowded.database report g w'.database := by
  have hk : crowded.database.Keyed := ⟨by decide, by decide⟩
  exact ⟨⟨hk, crowded_loadable, shaky_steady, rfl⟩,
    processExecutions_exact hk crowded_loadable shaky_steady rfl⟩

end Newsletter

theorem dueAt_of_local {rows : List ExecutionRow} {waiting : List Execution}
    (hload : Loads rows waiting) (hnow : now.isLocal = true) {r : ExecutionRow} (hr : r ∈ rows)
    (hwaits : r.status = Status.waiting.name) :
    dueAt now waiting = .error (.unrelated .compared) := by
  have hwaiting : waiting.any (!·.isCompleted) = true := by
    obtain ⟨e, he, hload⟩ := exists_mem_of_forall₂ hload hr
    obtain ⟨status, history, hstatus, -, rfl⟩ := ExecutionRow.load_eq_ok_iff.mp hload
    obtain rfl : Status.waiting = status := Status.name_injective (hwaits.symm.trans hstatus)
    exact List.any_eq_true.mpr ⟨_, he, rfl⟩
  unfold dueAt
  rw [hnow, hwaiting]
  rfl

theorem Database.mem_waitingRows {db : Database} {r : ExecutionRow} :
    r ∈ db.waitingRows ↔ r ∈ db.executions ∧ r.status = Status.waiting.name := by
  rw [waitingRows, mem_inOrder, List.mem_filter, beq_iff_eq]

theorem readDue_local {w : World σ} (hl : w.database.Loadable) (hs : Steady s)
    (hnow : now.isLocal = true) {r : ExecutionRow} (hr : r ∈ w.database.executions)
    (hwaits : r.status = Status.waiting.name) :
    ∃ w₁, (readDue now).run s w = (.error (.unrelated .compared), w₁) := by
  obtain ⟨waiting, o, hlist, hload⟩ := run_listWaiting hl hs
  have hat := dueAt_of_local hload hnow (Database.mem_waitingRows.mpr ⟨hr, hwaits⟩) hwaits
  refine ⟨{ w with outside := o }, ?_⟩
  unfold readDue
  rw [Action.run_bind_ok hlist, Reply.records_own,
    Action.run_bind_ok (Action.run_ofExcept _ s _), hat]
  rfl

/-- A pass at a time whose distance from UTC is unknown fails if a row waits. -/
theorem processExecutions_local {w : World σ} (hl : w.database.Loadable) (hs : Steady s)
    (hnow : now.isLocal = true) {r : ExecutionRow} (hr : r ∈ w.database.executions)
    (hwaits : r.status = Status.waiting.name) :
    ((processExecutions now).run s w).1 = .error (.unrelated .compared) := by
  obtain ⟨w₁, hread⟩ := readDue_local hl hs hnow hr hwaits
  rw [processExecutions_eq, Action.run_bind_error hread]

namespace Newsletter

/-- Nothing comes in the way and every table can be read, but at a time whose distance from UTC is
unknown there is no report. -/
theorem local_time_refused :
    (world.database.Keyed ∧ world.database.Loadable ∧ Steady surroundings) ∧
    ((processExecutions (.floating 0)).run surroundings world).1
      = .error (.unrelated .compared) := by
  have hl : world.database.Loadable := by
    refine ⟨fun r hr _ => ?_, fun _ hr => absurd hr List.not_mem_nil,
      fun _ hr => absurd hr List.not_mem_nil⟩
    obtain rfl := List.mem_singleton.mp hr
    exact ⟨execution, load_row⟩
  have hs : Steady surroundings := Surroundings.calm_steady
  exact ⟨⟨keyed, hl, hs⟩, processExecutions_local hl hs rfl (List.mem_singleton_self row) rfl⟩

end Newsletter

end Nurture
