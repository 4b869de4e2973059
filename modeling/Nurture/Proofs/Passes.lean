import Nurture.Proofs.Departures
import Nurture.Proofs.LeadRows

/-!
  Passes

  A pass drives the rows that are due one after the other. `Passed` says what that
  makes of the table of executions: each row that was driven went through what `Drove`
  admits, with the answer in its place, and the others are as they were. Since a row is
  found by its identifier, what happens to one row does not depend on what happened to
  another. The induction is on the list of what is due (`collect_passed`).
-/

namespace Nurture

variable {σ : Type} {s : Surroundings σ} {now : Calendar.Stamp}

/-! ## Which rows are due -/

/-- The row waits for a time that has come. -/
def ExecutionRow.isDue (r : ExecutionRow) (now : Calendar.Stamp) : Bool :=
  r.status == Status.waiting.name && r.nextRunAt ≤ now.instant

/-- The rows that are due. -/
def Database.due (db : Database) (now : Calendar.Stamp) : List ExecutionRow :=
  db.executions.filter (·.isDue now)

/-- The rows that wait, in the order in which they are driven. -/
def Database.waitingRows (db : Database) : List ExecutionRow :=
  inOrder (·.createdAt) (db.executions.filter fun r => r.status == Status.waiting.name)

/-- The rows of funnels, in the order in which they are listed. -/
def Database.funnelRows (db : Database) : List FunnelRow := inOrder (·.createdAt) db.funnels

/-- The rows of leads, in the order in which they are listed. -/
def Database.leadRows (db : Database) : List LeadRow := inOrder (·.createdAt) db.leads

theorem ExecutionRow.isDue_eq_true_iff {r : ExecutionRow} :
    r.isDue now = true ↔ r.status = Status.waiting.name ∧ r.nextRunAt ≤ now.instant := by
  rw [isDue, Bool.and_eq_true, decide_eq_true_eq, beq_iff_eq]

theorem Database.mem_due {db : Database} {r : ExecutionRow} :
    r ∈ db.due now ↔ r ∈ db.executions ∧ r.isDue now = true :=
  List.mem_filter

theorem ExecutionRow.isDue_of_load {r : ExecutionRow} {e : Execution} (h : r.load = .ok e) :
    e.isDue now = r.isDue now := by
  obtain ⟨status, history, hstatus, -, rfl⟩ := ExecutionRow.load_eq_ok_iff.mp h
  have hinstant : (r.toExecution status history).nextRunAt.instant = r.nextRunAt := by
    simp [toExecution]
  unfold Execution.isDue isDue
  rw [hinstant, hstatus]
  cases status <;> rfl

theorem ExecutionRow.ids_of_load {r : ExecutionRow} {e : Execution} (h : r.load = .ok e) :
    e.id = r.id ∧ e.funnelId = r.funnelId ∧ e.leadId = r.leadId := by
  obtain ⟨status, history, -, -, rfl⟩ := ExecutionRow.load_eq_ok_iff.mp h
  exact ⟨rfl, rfl, rfl⟩

/-- The executions read from rows, in their order. -/
abbrev Loads (rows : List ExecutionRow) (es : List Execution) : Prop :=
  List.Forall₂ (fun r e => r.load = .ok e) rows es

theorem Loads.due {rows : List ExecutionRow} {es : List Execution} (h : Loads rows es) :
    Loads (rows.filter (·.isDue now)) (es.filter (·.isDue now)) := by
  refine List.rel_filter ?_ h
  intro r e hload
  show r.isDue now = true ↔ e.isDue now = true
  rw [ExecutionRow.isDue_of_load hload]

theorem Database.waitingRows_due_perm (db : Database) :
    (db.waitingRows.filter (·.isDue now)).Perm (db.due now) := by
  have hwaits : ∀ r : ExecutionRow,
      (r.isDue now && r.status == Status.waiting.name) = r.isDue now := by
    intro r
    unfold ExecutionRow.isDue
    cases r.status == Status.waiting.name <;> simp
  calc db.waitingRows.filter (·.isDue now)
      |>.Perm ((db.executions.filter fun r => r.status == Status.waiting.name).filter
        (·.isDue now)) := (inOrder_perm _ _).filter _
    _ = db.executions.filter fun r => r.isDue now && r.status == Status.waiting.name :=
      List.filter_filter
    _ = db.due now := List.filter_congr fun r _ => hwaits r

/-! ## Driving what is due -/

/-- How an execution leaves the pass, by the answer of its driving. -/
def departureOf : Except Failure Departure → Departure
  | .ok d => d
  | .error _ => .failed

/-- The tables with every row of an execution changed in its place. -/
def Database.mapRows (db : Database) (g : ExecutionRow → ExecutionRow) : Database :=
  { db with executions := db.executions.map g }

/-- Each of the rows was changed in its place, and nothing else was. -/
structure Replaced (db : Database) (rows : List ExecutionRow) (g : ExecutionRow → ExecutionRow)
    (db' : Database) : Prop where
  database : db' = db.mapRows g
  id_eq : ∀ r, (g r).id = r.id
  untouched : ∀ r, r.id ∉ rows.map (·.id) → g r = r

theorem Replaced.nothing (db : Database) : Replaced db [] id db where
  database := by rw [Database.mapRows, List.map_id]
  id_eq _ := rfl
  untouched _ _ := rfl

theorem Replaced.find?_eq {db db' : Database} {rows : List ExecutionRow}
    {g : ExecutionRow → ExecutionRow} (h : Replaced db rows g db') (id : String) :
    (db'.executions.find? fun r => r.id == id)
      = (db.executions.find? fun r => r.id == id).map g := by
  have hid : (fun r : ExecutionRow => r.id == id) ∘ g = fun r => r.id == id := by
    funext r
    rw [Function.comp, h.id_eq]
  rw [h.database, Database.mapRows, List.find?_map, hid]

theorem Replaced.keyed {db db' : Database} {rows : List ExecutionRow}
    {g : ExecutionRow → ExecutionRow} (h : Replaced db rows g db') (hk : db.Keyed) : db'.Keyed := by
  have hids : db'.executions.map (·.id) = db.executions.map (·.id) := by
    rw [h.database, Database.mapRows, List.map_map]
    exact List.map_congr_left fun r _ => h.id_eq r
  refine ⟨hids ▸ hk.nodup, fun r hr => ?_⟩
  have hmem : r.id ∈ db.executions.map (·.id) := hids ▸ List.mem_map_of_mem hr
  obtain ⟨r₀, hr₀, hid⟩ := List.mem_map.mp hmem
  exact hid ▸ hk.whole r₀ hr₀

theorem Replaced.cons {db db₁ db₂ : Database} {r r' : ExecutionRow} {rows : List ExecutionRow}
    {g : ExecutionRow → ExecutionRow} (hfresh : r.id ∉ rows.map (·.id))
    (hdb : db₁ = db.change r.id fun _ => r') (hid : r'.id = r.id) (h : Replaced db₁ rows g db₂) :
    Replaced db (r :: rows) (fun x => if x.id = r.id then r' else g x) db₂ := by
  -- None of the others has its identifier, so what it became is what it stays.
  have hg : g r' = r' := h.untouched r' (hid ▸ hfresh)
  refine ⟨?_, fun x => ?_, fun x hx => ?_⟩
  · rw [h.database, hdb, Database.change, Database.mapRows, Database.mapRows, List.map_map]
    congr 1
    apply List.map_congr_left
    intro x _
    by_cases hx : x.id = r.id
    · simp only [Function.comp, if_pos hx, hg]
    · simp only [Function.comp, if_neg hx]
  · split
    · rename_i hx
      rw [hid, hx]
    · exact h.id_eq x
  · rw [List.map_cons, List.mem_cons, not_or] at hx
    simp only [if_neg hx.1, h.untouched x hx.2]

theorem forall₂_cons_of_fresh {β : Type} {R : ExecutionRow → β → ExecutionRow → Prop}
    {r r' : ExecutionRow} {rows : List ExecutionRow} {b : β} {bs : List β}
    {g : ExecutionRow → ExecutionRow} (hfresh : r.id ∉ rows.map (·.id)) (hr : R r b r')
    (h : List.Forall₂ (fun x b => R x b (g x)) rows bs) :
    List.Forall₂ (fun x b => R x b (if x.id = r.id then r' else g x)) (r :: rows) (b :: bs) := by
  refine .cons (by simpa only [if_true] using hr) ?_
  refine ((List.forall₂_and_left _ _).mpr ⟨fun x hx => hx, h⟩).imp ?_
  rintro x b ⟨hx, hR⟩
  have hne : x.id ≠ r.id := fun h => hfresh (h ▸ List.mem_map_of_mem hx)
  simpa only [if_neg hne] using hR

/-- The rows were driven, each with the answer in its place, and nothing else was changed. -/
structure Passed (s : Surroundings σ) (now : Calendar.Stamp) (db : Database)
    (rows : List ExecutionRow) (answers : List (Except Failure Departure))
    (g : ExecutionRow → ExecutionRow) (db' : Database) : Prop extends
    Replaced db rows g db' where
  drove : List.Forall₂ (fun r answer => ∃ e, r.load = .ok e ∧ Drove s now r e.history answer (g r))
    rows answers

theorem Passed.nothing (db : Database) : Passed s now db [] [] id db where
  toReplaced := .nothing db
  drove := .nil

theorem Drove.id_eq {r r' : ExecutionRow} {history : List Json.Fields}
    {answer : Except Failure Departure} (h : Drove s now r history answer r') : r'.id = r.id := by
  cases h <;> rfl

theorem Passed.cons {db db₁ db₂ : Database} {r r' : ExecutionRow} {rows : List ExecutionRow}
    {answer : Except Failure Departure} {answers : List (Except Failure Departure)}
    {g : ExecutionRow → ExecutionRow} (hfresh : r.id ∉ rows.map (·.id))
    (hdb : db₁ = db.change r.id fun _ => r')
    (hdrove : ∃ e, r.load = .ok e ∧ Drove s now r e.history answer r')
    (h : Passed s now db₁ rows answers g db₂) :
    Passed s now db (r :: rows) (answer :: answers)
      (fun x => if x.id = r.id then r' else g x) db₂ := by
  have hid : r'.id = r.id := by
    obtain ⟨e, -, hdrove⟩ := hdrove
    exact hdrove.id_eq
  exact ⟨h.toReplaced.cons hfresh hdb hid, forall₂_cons_of_fresh
    (R := fun r answer r' => ∃ e, r.load = .ok e ∧ Drove s now r e.history answer r')
    hfresh hdrove h.drove⟩

section
variable {w : World σ} {funnels : List Funnel}

theorem processDue_makes (leads : List Lead) (now : Calendar.Stamp)
    (hf : ∀ f ∈ funnels, f.Validated) (hk : w.database.Keyed)
    {r : ExecutionRow} {e : Execution} (hr : r ∈ w.database.executions) (hload : r.load = .ok e) :
    ∃ answer w' r', (processDue funnels leads now e).run s w = (.ok (departureOf answer), w') ∧
      w'.database = w.database.change r.id (fun _ => r') ∧ Drove s now r e.history answer r' := by
  have hfound : ∀ f, funnels.find? (fun f => f.id == e.funnelId) = some f → f.Validated :=
    fun f hfind => hf f (List.mem_of_find?_eq_some hfind)
  obtain ⟨answer, w', r', hrun, hdb, h⟩ := @processExecution_drove σ s w r now hk hr e _
    (leads.find? fun l => l.id == e.leadId) hload hfound
  have hattempt := Action.run_attempt (processExecution e
    (funnels.find? fun f => f.id == e.funnelId) (leads.find? fun l => l.id == e.leadId) now) s w
  rw [hrun] at hattempt
  unfold processDue
  dsimp only
  rw [Action.run_bind_ok hattempt]
  cases answer with
  | ok d => exact ⟨_, w', r', rfl, hdb, h⟩
  | error cause =>
    exact ⟨_, { w' with journal := w'.journal ++ [.aborted e.id cause] }, r', rfl, hdb, h⟩

/-- Driving rows one after the other. -/
theorem collect_passed (leads : List Lead) (now : Calendar.Stamp)
    (hf : ∀ f ∈ funnels, f.Validated) {rows : List ExecutionRow} {es : List Execution}
    (hload : Loads rows es) (hk : w.database.Keyed)
    (hr : ∀ r ∈ rows, r ∈ w.database.executions) (hnodup : (rows.map (·.id)).Nodup) :
    ∃ answers w' g, (Action.collect (processDue funnels leads now) es).run s w
        = (.ok (answers.map departureOf), w') ∧
      Passed s now w.database rows answers g w'.database := by
  induction hload generalizing w with
  | nil => exact ⟨[], w, id, rfl, .nothing w.database⟩
  | @cons r e rows es he hload ih =>
    rw [List.map_cons, List.nodup_cons] at hnodup
    obtain ⟨hfresh, hnodup⟩ := hnodup
    obtain ⟨answer, w₁, r', hrun, hdb, hdrove⟩ :=
      processDue_makes (s := s) leads now hf hk (hr r List.mem_cons_self) he
    have hid : r'.id = r.id := hdrove.id_eq
    -- The rows further on are still there, under their identifiers.
    have hk₁ : w₁.database.Keyed := hdb ▸ hk.change_keyed fun _ _ => hid
    have hr₁ : ∀ x ∈ rows, x ∈ w₁.database.executions := by
      intro x hx
      rw [hdb, Database.mem_change]
      refine .inr ⟨hr x (List.mem_cons_of_mem r hx), fun h => hfresh ?_⟩
      rw [← h]
      exact List.mem_map_of_mem hx
    obtain ⟨answers, w₂, g, hruns, hpassed⟩ := ih hk₁ hr₁ hnodup
    refine ⟨answer :: answers, w₂, fun x => if x.id = r.id then r' else g x, ?_, ?_⟩
    · unfold Action.collect
      rw [Action.run_bind_ok hrun, Action.run_bind_ok hruns]
      rfl
    · exact Passed.cons hfresh hdb ⟨e, he, hdrove⟩ hpassed

end

/-! ## Listings -/

section
variable {α β γ : Type} {c : Call} {w : World σ} {rows : Database → List α}
  {load : α → Except Failure β} {x : Action σ (Reply (List β))} {part : String}
  {k : List β → Action σ γ}

/-- Reading rows. -/
def Action.listing (rows : Database → List α) (load : α → Except Failure β) :
    Action σ (List β) := do
  let db ← Action.database
  Action.ofExcept ((rows db).mapM load)

theorem run_listing :
    (Action.listing rows load : Action σ (List β)).run s w = ((rows w.database).mapM load, w) := by
  unfold Action.listing
  rw [Action.run_bind_ok (Action.run_database s w), Action.run_ofExcept]

theorem listWaiting_eq :
    (Store.listExecutions (some Status.waiting.name) none none : Action σ _)
      = Action.guarded .listExecutions (Action.listing Database.waitingRows ExecutionRow.load) := by
  have hfilter : (fun r : ExecutionRow => Store.passes (some Status.waiting.name) r.status
      && Store.passes none r.funnelId && Store.passes none r.leadId)
      = fun r => r.status == Status.waiting.name := by
    funext r
    have hne : (Status.waiting.name == "") = false := by decide
    simp only [Store.passes, hne, Bool.false_or, Bool.and_true, Bool.beq_comm]
  have hstatus : Store.checkStatusFilter (some Status.waiting.name) = .ok () := by
    simp [Store.checkStatusFilter]
  unfold Store.listExecutions
  rw [hfilter, hstatus]
  rfl

theorem listFunnels_eq :
    (Store.listFunnels : Action σ _)
      = Action.guarded .listFunnels (Action.listing Database.funnelRows FunnelRow.load) :=
  rfl

theorem listLeads_none_eq :
    (Store.listLeads none : Action σ _)
      = Action.guarded .listLeads (Action.listing Database.leadRows LeadRow.load) := by
  have hrows : ∀ db : Database, inOrder (·.createdAt) (db.leads.filter fun _ => true)
      = inOrder (·.createdAt) db.leads := by
    intro db
    rw [List.filter_true]
  unfold Action.listing Database.leadRows
  simp only [← hrows]
  rfl

theorem allLeads_eq :
    (Store.allLeads : Action σ _) = Action.relayed .allLeads (Action.guarded .listLeads
      (Action.listing Database.leadRows LeadRow.load)) := by
  rw [Store.allLeads, listLeads_none_eq]

/-- The action lists what is read from rows, unless it is refused or something else answers, and
does nothing else. -/
structure Lists (s : Surroundings σ) (x : Action σ (Reply (List β)))
    (rows : Database → List α) (load : α → Except Failure β) : Prop where
  quiet : Action.Quiet s x
  own : ∀ w items, (x.run s w).1 = .ok (.own items) →
    List.Forall₂ (fun r b => load r = .ok b) (rows w.database) items

theorem Lists.of_body {body : Action σ (List β)}
    (h : ∀ w, ∃ result, body.run s w = (result, w) ∧ ∀ items, result = .ok items →
      List.Forall₂ (fun r b => load r = .ok b) (rows w.database) items) :
    Lists s (Action.guarded c body) rows load where
  quiet := by
    refine Action.Quiet.guarded' (Action.Tries.of_keeps ?_ ?_ fun w => rfl) <;> intro w <;>
      obtain ⟨result, hrun, -⟩ := h w <;> rw [hrun]
  own := by
    intro w items hok
    obtain ⟨o, hbody⟩ := Action.run_guarded_eq_own (Prod.ext hok rfl)
    obtain ⟨result, hrun, hitems⟩ := h { w with outside := o }
    rw [hrun] at hbody
    exact hitems items (congrArg Prod.fst hbody)

theorem Lists.guarded : Lists s (Action.guarded c (Action.listing rows load)) rows load :=
  .of_body fun _ => ⟨_, run_listing, fun _ h => mapM_eq_ok_iff.mp h⟩

theorem Lists.relayed (hx : Lists s x rows load) : Lists s (Action.relayed c x) rows load where
  quiet := Action.Quiet.relayed' hx.quiet
  own := by
    intro w items h
    obtain ⟨o, ⟨reason, hrun⟩ | ⟨j, -, hrun⟩ | hrun⟩ := Action.relayed_cases c x s w
    · rw [hrun] at h
      cases h
    · rw [hrun] at h
      cases h
    · rw [hrun] at h
      exact hx.own { w with outside := o } items h

theorem records_eq_ok {reply : Reply (List β)} {items : List β}
    (h : reply.records part = .ok items) : reply = .own items ∨ items = [] := by
  cases reply with
  | own items' =>
    cases h
    exact .inl rfl
  | foreign j =>
    unfold Reply.records at h
    cases hm : j.members? with
    | none =>
      simp only [hm] at h
      cases h
    | some members =>
      cases members with
      | nil =>
        simp only [hm] at h
        cases h
        exact .inr rfl
      | cons m members =>
        simp only [hm] at h
        cases h

end

/-! ## The whole pass -/

theorem dueAt_eq_ok {waiting due : List Execution} (h : dueAt now waiting = .ok due) :
    due = waiting.filter (·.isDue now) := by
  unfold dueAt at h
  split at h
  · cases h
  · exact (Except.ok.inj h).symm

theorem FunnelRow.validated_of_forall₂ {rows : List FunnelRow} {funnels : List Funnel}
    (h : List.Forall₂ (fun r f => FunnelRow.load r = .ok f) rows funnels) :
    ∀ f ∈ funnels, f.Validated := by
  induction h with
  | nil => simp
  | cons hload _ ih =>
    rw [List.forall_mem_cons]
    exact ⟨FunnelRow.validated_of_load hload, ih⟩

theorem Database.Keyed.nodup_due {db : Database} (hk : db.Keyed) :
    ((db.waitingRows.filter (·.isDue now)).map (·.id)).Nodup := by
  rw [(db.waitingRows_due_perm.map _).nodup_iff]
  exact hk.nodup.sublist (List.filter_sublist.map _)

theorem exists_due_rows (now : Calendar.Stamp) {db : Database} (hk : db.Keyed)
    {waiting : List Execution} (h : waiting = [] ∨ Loads db.waitingRows waiting) :
    ∃ rows, Loads rows (waiting.filter (·.isDue now)) ∧ (∀ r ∈ rows, r ∈ db.due now) ∧
      (rows.map (·.id)).Nodup := by
  rcases h with rfl | h
  · exact ⟨[], .nil, by simp, List.nodup_nil⟩
  · exact ⟨_, h.due, fun r hr => db.waitingRows_due_perm.mem_iff.mp hr, hk.nodup_due⟩

end Nurture
