import Mathlib.Data.List.Perm.Basic
import Nurture.Proofs.PassLog
import Nurture.Proofs.PassReport

/-!
  Executions do not get in each other's way

  If the outside keeps no memory, what becomes of one execution in a pass depends on its
  row, its funnel, its lead and the templates, and on nothing else: not on the other
  executions, and not on when it is its turn (`processExecutions_isolated`).

  `Action.Determined` says that of actions which write no table, with one lemma for each way of
  building one. A walk is such an action, and the one write after it changes a row to what the
  row alone decides (`Settles`). Over the list of what is due this is lifted by the
  induction over passes.
-/

namespace Nurture

variable {σ α β : Type} {s : Surroundings σ} {T : List TemplateRow} {now : Calendar.Stamp}

/-! ## An outside without memory -/

/-- Whether a message is refused and whether a call is interrupted does not depend on what
happened before. -/
structure Memoryless (s : Surroundings σ) : Prop where
  refusal : ∀ m o o', (s.deliver m o).1.refusal = (s.deliver m o').1.refusal
  interrupt : ∀ c o o', (s.interrupt c o).1 = (s.interrupt c o').1

namespace Action

/-- In every world with these templates the action comes to the same and attempts the same
messages, and it leaves the tables alone. -/
def Determined (s : Surroundings σ) (T : List TemplateRow) (x : Action σ α) : Prop :=
  ∃ r tried, ∀ w : World σ, w.database.templates = T →
    (x.run s w).1 = r ∧ (x.run s w).2.attempts = w.attempts ++ tried ∧
      (x.run s w).2.database = w.database

namespace Determined

/-- What attempts nothing and changes nothing comes to the same if it does not look at the world. -/
theorem of_keeps {x : Action σ α} (r : Except Failure α)
    (h : ∀ w : World σ, w.database.templates = T → (x.run s w).1 = r ∧
      (x.run s w).2.attempts = w.attempts ∧ (x.run s w).2.database = w.database) :
    Determined s T x := by
  refine ⟨r, [], fun w hw => ?_⟩
  obtain ⟨hr, hattempts, hdb⟩ := h w hw
  exact ⟨hr, by rw [hattempts, List.append_nil], hdb⟩

theorem pure' (a : α) : Determined s T (pure a : Action σ α) :=
  of_keeps _ fun _ _ => ⟨rfl, rfl, rfl⟩

theorem fail' (e : Failure) : Determined s T (fail e : Action σ α) :=
  of_keeps _ fun _ _ => ⟨rfl, rfl, rfl⟩

theorem ofExcept' (r : Except Failure α) : Determined s T (ofExcept r : Action σ α) := by
  cases r with
  | error e => exact fail' e
  | ok a => exact pure' a

theorem policy' : Determined s T (policy : Action σ Policy) := of_keeps _ fun _ _ => ⟨rfl, rfl, rfl⟩

theorem note' (events : List Journal.Event) : Determined s T (note events : Action σ Unit) :=
  of_keeps _ fun _ _ => ⟨rfl, rfl, rfl⟩

theorem templates' (g : List TemplateRow → α) :
    Determined s T (database >>= fun db => pure (g db.templates) : Action σ α) := by
  refine of_keeps (.ok (g T)) fun w hw => ⟨?_, rfl, rfl⟩
  show Except.ok (g w.database.templates) = _
  rw [hw]

theorem deliver' (hm : Memoryless s) (m : Message) :
    Determined s T (deliver m : Action σ (Option Failure)) := by
  by_cases hne : Nonempty σ
  · obtain ⟨o⟩ := hne
    refine ⟨.ok (s.deliver m o).1.refusal, [⟨m, (s.deliver m o).1.refusal.isSome⟩], fun w _ => ?_⟩
    have hsame := hm.refusal m w.outside o
    refine ⟨?_, ?_, rfl⟩
    · show Except.ok (s.deliver m w.outside).1.refusal = _
      rw [hsame]
    · show w.attempts ++ [⟨m, (s.deliver m w.outside).1.refusal.isSome⟩] = _
      rw [hsame]
  · -- there is no world
    exact ⟨.ok none, [], fun w _ => absurd ⟨w.outside⟩ hne⟩

theorem bind' {x : Action σ α} {f : α → Action σ β} (hx : Determined s T x)
    (hf : ∀ a, Determined s T (f a)) : Determined s T (x >>= f) := by
  obtain ⟨r, tried, hx⟩ := hx
  cases r with
  | error e =>
    refine ⟨.error e, tried, fun w hw => ?_⟩
    obtain ⟨hr, hattempts, hdb⟩ := hx w hw
    rw [run_bind_error (Prod.ext hr rfl)]
    exact ⟨rfl, hattempts, hdb⟩
  | ok a =>
    obtain ⟨r, more, hf⟩ := hf a
    refine ⟨r, tried ++ more, fun w hw => ?_⟩
    obtain ⟨hr, hattempts, hdb⟩ := hx w hw
    obtain ⟨hr', hattempts', hdb'⟩ := hf (x.run s w).2 (by rw [hdb, hw])
    rw [run_bind_ok (Prod.ext hr rfl)]
    refine ⟨hr', ?_, hdb'.trans hdb⟩
    rw [hattempts', hattempts, List.append_assoc]

theorem map' {f : α → β} {x : Action σ α} (hx : Determined s T x) : Determined s T (f <$> x) :=
  bind' hx fun a => pure' (f a)

theorem guarded' (hm : Memoryless s) {c : Call} {body : Action σ α} (hb : Determined s T body) :
    Determined s T (guarded c body) := by
  by_cases hne : Nonempty σ
  · obtain ⟨o⟩ := hne
    have hsame : ∀ w : World σ, (s.interrupt c w.outside).1 = (s.interrupt c o).1 :=
      fun w => hm.interrupt c w.outside o
    cases hi : (s.interrupt c o).1 with
    | none =>
      obtain ⟨r, tried, hb⟩ := map' (f := Reply.own) hb
      refine ⟨r, tried, fun w hw => ?_⟩
      unfold guarded
      rw [relayed_of_none ((hsame w).trans hi)]
      exact hb { w with outside := (s.interrupt c w.outside).2 } hw
    | some i =>
      cases i with
      | breaks reason =>
        refine of_keeps (.error (.broken reason)) fun w _ => ?_
        unfold guarded
        rw [relayed_of_breaks (Prod.ext ((hsame w).trans hi) rfl)]
        exact ⟨rfl, rfl, rfl⟩
      | answers j =>
        refine of_keeps (.ok (.foreign j)) fun w _ => ?_
        unfold guarded
        rw [relayed_of_answers (Prod.ext ((hsame w).trans hi) rfl)]
        exact ⟨rfl, rfl, rfl⟩
  · -- there is no world
    exact ⟨.error (.broken ""), [], fun w _ => absurd ⟨w.outside⟩ hne⟩

end Determined

end Action

/-! ## Nodes and walks -/

theorem Step.Closed.determined (hm : Memoryless s) :
    Step.Closed fun _ x => Action.Determined s T x where
  pure' := .pure'
  bind' := .bind'
  ofExcept' := .ofExcept'
  policy' := .policy'
  note' := .note'
  guarded' := .guarded' hm
  templateRow? _ := .bind' (.ofExcept' _) fun id =>
    .templates' fun rows => rows.find? fun r => r.template.id == id

theorem Step.perform_determined (ctx : StepContext) (n : Node) (hm : Memoryless s) :
    Action.Determined s T (Step.perform ctx n) :=
  (Closed.determined hm).perform ctx (.deliver' hm) n

/-- A walk comes to the same, and runs the same nodes, in every world with the templates. -/
theorem walk_determined (hm : Memoryless s) (f : Funnel) (ctx : StepContext) (k visited : Nat)
    (start : Option String) (history : List Json.Fields) :
    ∃ r visits, ∀ w : World σ, w.database.templates = T →
      ((walk f ctx k visited start history).run s w).1 = r ∧
        walkVisits f ctx s k start w = visits ∧
        ((walk f ctx k visited start history).run s w).2.database = w.database := by
  -- By induction on the nodes left to visit. A node writes no table, so the rest of the walk
  -- begins in a world with the same templates.
  induction k generalizing visited start history with
  | zero =>
    obtain ⟨j, -, hstop⟩ := walk_stopped (σ := σ) (f := f) (.inl rfl)
    refine ⟨.ok (j, history), [], fun w _ => ?_⟩
    rw [(hstop s w).1]
    exact ⟨rfl, (hstop s w).2, rfl⟩
  | succ k ih =>
    cases hfound : (reference start).bind f.node? with
    | none =>
      obtain ⟨j, -, hstop⟩ := walk_stopped (σ := σ) (.inr hfound)
      refine ⟨.ok (j, history), [], fun w _ => ?_⟩
      rw [(hstop s w).1]
      exact ⟨rfl, (hstop s w).2, rfl⟩
    | some n =>
      obtain ⟨id, hid, hn⟩ := Option.bind_eq_some_iff.mp hfound
      obtain ⟨result, tried, hperform⟩ := Step.perform_determined (s := s) (T := T) ctx n hm
      have hrun : ∀ w : World σ, w.database.templates = T → ∃ w₁,
          (Step.perform ctx n).run s w = (result, w₁) ∧ w₁.attempts = w.attempts ++ tried ∧
            w₁.database = w.database := by
        intro w hw
        obtain ⟨hr, htried, hdb⟩ := hperform w hw
        exact ⟨_, Prod.ext hr rfl, htried, hdb⟩
      cases result with
      | error cause =>
        refine ⟨.error cause, [⟨n, tried⟩], fun w hw => ?_⟩
        obtain ⟨w₁, hrun, htried, hdb⟩ := hrun w hw
        rw [run_walk_succ hid hn, walkVisits_succ hid hn hrun htried, hrun]
        exact ⟨rfl, rfl, hdb⟩
      | ok result =>
        cases result with
        | failed error retryable =>
          refine ⟨.ok (.failed n error, history), [⟨n, tried⟩], fun w hw => ?_⟩
          obtain ⟨w₁, hrun, htried, hdb⟩ := hrun w hw
          rw [run_walk_succ hid hn, walkVisits_succ hid hn hrun htried, hrun]
          exact ⟨rfl, rfl, hdb⟩
        | suspended node resumeAt =>
          refine ⟨.ok (.parked n node resumeAt, history), [⟨n, tried⟩], fun w hw => ?_⟩
          obtain ⟨w₁, hrun, htried, hdb⟩ := hrun w hw
          rw [run_walk_succ hid hn, walkVisits_succ hid hn hrun htried, hrun]
          exact ⟨rfl, rfl, hdb⟩
        | advanced next sent =>
          obtain ⟨r, visits, hrest⟩ :=
            ih (visited + 1) next (history ++ [advancedEntry n sent ctx.now])
          refine ⟨r, ⟨n, tried⟩ :: visits, fun w hw => ?_⟩
          obtain ⟨w₁, hrun, htried, hdb⟩ := hrun w hw
          obtain ⟨hr, hvisits, hdb₁⟩ := hrest w₁ (by rw [hdb, hw])
          rw [run_walk_succ hid hn, walkVisits_succ hid hn hrun htried, hrun]
          exact ⟨hr, by rw [← hvisits], hdb₁.trans hdb⟩

/-! ## The row of an execution -/

/-- Driving the execution of a row makes the same of the row, and runs the same nodes, in every
world with the templates in which the row is. -/
def Settles (s : Surroundings σ) (now : Calendar.Stamp) (T : List TemplateRow) (r : ExecutionRow)
    (e : Execution) (funnel : Option Funnel) (lead : Option Lead) (visits : List Visit)
    (r' : ExecutionRow) : Prop :=
  ∀ w : World σ, w.database.Keyed → r ∈ w.database.executions → w.database.templates = T →
    driveVisits e funnel lead now s w = visits ∧
      ((processExecution e funnel lead now).run s w).2.database
        = w.database.change r.id fun _ => r'

section
variable {r r' : ExecutionRow} {p : ExecutionPatch}

theorem updateExecution_determined (hm : Memoryless s) (hp : p.unknown = []) (r : ExecutionRow) :
    ∃ r', r'.id = r.id ∧ ∀ w : World σ, w.database.Keyed → r ∈ w.database.executions →
      ((Store.updateExecution r.id p).run s w).2.database
        = w.database.change r.id fun _ => r' := by
  by_cases hi : ∀ o, (s.interrupt .updateExecution o).1 = none
  · have hpatched : ∃ r', r'.id = r.id ∧ ∀ w : World σ, w.database.Keyed →
        r ∈ w.database.executions → ((Store.patchRow r.id p).run s w).2.database
          = w.database.change r.id fun _ => r' := by
      cases hpatch : r.patch p s.databaseClock with
      | ok r' =>
        refine ⟨r', Store.id_of_patch hpatch, fun w hk hr => ?_⟩
        rw [Store.run_patchRow hk hr hp, hpatch]
      | error e =>
        refine ⟨r, rfl, fun w hk hr => ?_⟩
        rw [Store.run_patchRow hk hr hp, hpatch]
        exact (hk.change_self hr).symm
    obtain ⟨r', hid, hpatched⟩ := hpatched
    refine ⟨r', hid, fun w hk hr => ?_⟩
    rw [Store.updateExecution_eq, Action.guarded, Action.relayed_of_none (hi _), Action.run_map]
    exact hpatched _ hk hr
  · -- the call is never made
    push Not at hi
    obtain ⟨o, ho⟩ := hi
    refine ⟨r, rfl, fun w hk hr => ?_⟩
    rw [Store.updateExecution_eq, Action.guarded, hk.change_self hr]
    have hne := hm.interrupt .updateExecution w.outside o
    rcases hw : s.interrupt .updateExecution w.outside with ⟨_ | reason | j, o'⟩
    · rw [hw] at hne
      exact absurd hne.symm ho
    · rw [Action.relayed_of_breaks hw]
    · rw [Action.relayed_of_answers hw]

theorem writes_determined (hm : Memoryless s) (hp : p.unknown = []) {x : Action σ Departure}
    {d : Departure} {id : String} (hid : id = r.id) (hx : ∀ w, x.Writes s w id p d) :
    ∃ r', r'.id = r.id ∧ ∀ w : World σ, w.database.Keyed → r ∈ w.database.executions →
      (x.run s w).2.database = w.database.change r.id fun _ => r' := by
  subst hid
  obtain ⟨r', hid, hwrite⟩ := updateExecution_determined hm hp r
  refine ⟨r', hid, fun w hk hr => ?_⟩
  obtain ⟨w₀, hsame, hrest⟩ := hx w
  obtain ⟨w₂, hsame', hrun⟩ := hrest _ _ rfl
  rw [hrun, ← hsame.1]
  exact hsame'.1.trans (hwrite w₀ (hsame.1 ▸ hk) (hsame.1 ▸ hr))

theorem settle_determined (hm : Memoryless s) {f : Funnel} {ctx : StepContext} (j : Journey)
    (history : List Json.Fields) (hid : ctx.execution.id = r.id) :
    ∃ r', r'.id = r.id ∧ ∀ w : World σ, w.database.Keyed → r ∈ w.database.executions →
      ((settle f ctx j history).run s w).2.database = w.database.change r.id fun _ => r' := by
  cases hpatch : j.patch? ctx.now history with
  | none =>
    cases j with
    | failed n error => exact ⟨r, rfl, fun w hk hr => (hk.change_self hr).symm⟩
    | ended | unreachable | looping | parked => cases hpatch
  | some p =>
    have hp : p.unknown = [] := by
      cases j with
      | failed n error => cases hpatch
      | ended | unreachable | looping =>
        cases hpatch
        exact Store.complete_unknown
      | parked =>
        cases hpatch
        exact Store.park_unknown
    exact writes_determined hm hp hid (settle_writes hpatch)

/-- What becomes of an execution is decided by its row, its funnel, its lead and the templates. -/
theorem processExecution_settles (hm : Memoryless s) {e : Execution} (he : e.id = r.id)
    (funnel : Option Funnel) (lead : Option Lead) :
    ∃ visits r', r'.id = r.id ∧ Settles s now T r e funnel lead visits r' := by
  have horphan : ∃ r', r'.id = r.id ∧ ∀ w : World σ, w.database.Keyed →
      r ∈ w.database.executions → ((do
        Action.note [.execution e.id e.leadId (.orphaned e.funnelId)]
        completeExecution e.id
          (e.history ++ [historyEntry (e.currentNodeId.getD "") none "orphaned" now []])
        return .completed : Action σ Departure).run s w).2.database
          = w.database.change r.id fun _ => r' :=
    writes_determined hm Store.complete_unknown he (noteThenComplete_writes e.id _)
  obtain ⟨r₀, hid₀, horphan⟩ := horphan
  cases funnel with
  | none => exact ⟨[], r₀, hid₀, fun w hk hr _ => ⟨rfl, horphan w hk hr⟩⟩
  | some f =>
    cases lead with
    | none => exact ⟨[], r₀, hid₀, fun w hk hr _ => ⟨rfl, horphan w hk hr⟩⟩
    | some lead =>
      obtain ⟨result, visits, hwalk⟩ := walk_determined (s := s) (T := T) hm f ⟨e, lead, now⟩
        s.policy.bound 0 e.currentNodeId e.history
      cases result with
      | error cause =>
        refine ⟨visits, r, rfl, fun w hk hr hT => ?_⟩
        obtain ⟨hresult, hvisits, hdb⟩ := hwalk w hT
        rw [run_processExecution, Action.run_bind_error (Prod.ext hresult rfl), hk.change_self hr]
        exact ⟨hvisits, hdb⟩
      | ok result =>
        obtain ⟨j, history⟩ := result
        have hid : (StepContext.mk e lead now).execution.id = r.id := he
        obtain ⟨r', hid, hsettle⟩ := settle_determined (f := f) hm j history hid
        refine ⟨visits, r', hid, fun w hk hr hT => ?_⟩
        obtain ⟨hresult, hvisits, hdb⟩ := hwalk w hT
        rw [run_processExecution, Action.run_bind_ok (Prod.ext hresult rfl)]
        refine ⟨hvisits, ?_⟩
        rw [← hdb] at hk hr ⊢
        exact hsettle _ hk hr

end

/-! ## Driving rows whose outcome is decided -/

/-- With these funnels, leads and templates, `G` is what driving makes of a row, and `V` are the
nodes that are run for it. -/
def Decided (s : Surroundings σ) (now : Calendar.Stamp) (T : List TemplateRow)
    (funnels : List Funnel) (leads : List Lead) (V : ExecutionRow → List Visit)
    (G : ExecutionRow → ExecutionRow) (r : ExecutionRow) (e : Execution) : Prop :=
  (G r).id = r.id ∧ Settles s now T r e (funnels.find? fun f => f.id == e.funnelId)
    (leads.find? fun l => l.id == e.leadId) (V r) (G r)

section
variable {V : ExecutionRow → List Visit} {G : ExecutionRow → ExecutionRow}
  {funnels : List Funnel} {leads : List Lead} {db db₁ db₂ : Database}
  {rows rows' : List ExecutionRow} {g g' : ExecutionRow → ExecutionRow}

theorem Decided.logs {r : ExecutionRow} {e : Execution} (hid : e.id = r.id)
    (h : Decided s now T funnels leads V G r e) :
    Logs s now funnels leads T (fun r d r' => d.execution.id = r.id ∧ d.visits = V r ∧ r' = G r)
      r e := by
  intro w hk hr hT
  obtain ⟨hvisits, hdb⟩ := h.2 w hk hr hT
  obtain ⟨d, -, hsame⟩ := run_processDue funnels leads now s e w
  exact ⟨G r, hsame.1.trans hdb, h.1, hid, hvisits, rfl⟩

/-- Each row becomes what is decided of it, whatever is driven before it. -/
theorem collect_decided {es : List Execution} (hload : Loads rows es)
    (h : ∀ r ∈ rows, ∀ e, r.load = .ok e → Decided s now T funnels leads V G r e) {w : World σ}
    (hk : w.database.Keyed) (hr : ∀ r ∈ rows, r ∈ w.database.executions)
    (hnodup : (rows.map (·.id)).Nodup) (hT : w.database.templates = T) :
    ∃ g, Replaced w.database rows g
        ((Action.collect (processDue funnels leads now) es).run s w).2.database ∧
      (∀ r ∈ rows, g r = G r) ∧
      List.Forall₂ (fun r d => d.execution.id = r.id ∧ d.visits = V r) rows
        (driveLog funnels leads now s es w) := by
  have hlogs : List.Forall₂ (Logs s now funnels leads T fun r d r' =>
      d.execution.id = r.id ∧ d.visits = V r ∧ r' = G r) rows es := by
    refine ((List.forall₂_and_left _ _).mpr ⟨fun r hr => hr, hload⟩).imp ?_
    rintro r e ⟨hr, hload⟩
    exact (h r hr e hload).logs (ExecutionRow.ids_of_load hload).1
  obtain ⟨g, hreplaced, hrows⟩ := collect_logs hlogs hk hr hnodup hT
  refine ⟨g, hreplaced, fun r hr => ?_, hrows.imp fun r d hd => ⟨hd.1, hd.2.1⟩⟩
  obtain ⟨d, -, hd⟩ := exists_mem_of_forall₂ hrows hr
  exact hd.2.2

theorem Replaced.eq_of_perm (hk : db.Keyed) (hr : ∀ r ∈ rows, r ∈ db.executions)
    (hperm : rows'.Perm rows) (h : Replaced db rows g db₁) (h' : Replaced db rows' g' db₂)
    (hsame : ∀ r ∈ rows, g' r = g r) : db₂ = db₁ := by
  rw [h.database, h'.database, Database.mapRows, Database.mapRows]
  congr 1
  apply List.map_congr_left
  intro x hx
  by_cases hmem : x.id ∈ rows.map (·.id)
  · obtain ⟨r, hr', hid⟩ := List.mem_map.mp hmem
    obtain rfl : r = x := hk.eq_of_id (hr r hr') hx hid
    exact hsame r hr'
  · rw [h.untouched x hmem, h'.untouched x ((hperm.map _).mem_iff.not.mpr hmem)]

end

/-! ## What a pass reads -/

/-- The funnel with the identifier, as a pass reads it. -/
def Database.funnel? (db : Database) (id : String) : Option Funnel :=
  (db.funnelRows.find? fun r => r.id == id).bind fun r => r.load.toOption

/-- The lead with the identifier, as a pass reads it. -/
def Database.lead? (db : Database) (id : String) : Option Lead :=
  (db.leadRows.find? fun r => r.id == id).bind fun r => r.load.toOption

section
variable {load : α → Except Failure β} {rows : List α} {items : List β} {key : α → String}
  {key' : β → String}

theorem find?_loaded (hkey : ∀ r b, load r = .ok b → key' b = key r)
    (h : List.Forall₂ (fun r b => load r = .ok b) rows items) (id : String) :
    items.find? (fun b => key' b == id)
      = (rows.find? fun r => key r == id).bind fun r => (load r).toOption := by
  have hfound : Option.Rel (fun r b => load r = .ok b) (rows.find? fun r => key r == id)
      (items.find? fun b => key' b == id) :=
    find?_forall₂ h fun r b hload => by rw [hkey r b hload]
  generalize (rows.find? fun r => key r == id) = row, items.find? (fun b => key' b == id) = item
    at hfound ⊢
  cases hfound with
  | none => rfl
  | some hload =>
    rw [Option.bind_some, hload]
    rfl

end

section
variable {w : World σ}

theorem Reads.find?_funnel {due : List Execution} {funnels : List Funnel} {leads : List Lead}
    {w₁ : World σ} (h : Reads s now w due funnels leads w₁) (hne : due ≠ []) (id : String) :
    (funnels.find? fun f => f.id == id) = w.database.funnel? id :=
  find?_loaded (fun _ _ => FunnelRow.id_of_load) (h.load_funnels hne) id

theorem Reads.find?_lead {due : List Execution} {funnels : List Funnel} {leads : List Lead}
    {w₁ : World σ} (h : Reads s now w due funnels leads w₁) (hne : due ≠ []) (id : String) :
    (leads.find? fun l => l.id == id) = w.database.lead? id :=
  find?_loaded (fun _ _ => LeadRow.id_of_load) (h.load_leads hne) id

end

/-! ## Isolation -/

theorem exists_decisions (hm : Memoryless s) (now : Calendar.Stamp) (T : List TemplateRow) :
    ∃ (V : Option Funnel → Option Lead → ExecutionRow → List Visit)
      (G : Option Funnel → Option Lead → ExecutionRow → ExecutionRow),
      ∀ funnel lead r e, r.load = .ok e → (G funnel lead r).id = r.id ∧
        Settles s now T r e funnel lead (V funnel lead r) (G funnel lead r) := by
  -- The outcome is fixed before there is a world, so that no world can have a part in it.
  have hdecided : ∀ (funnel : Option Funnel) (lead : Option Lead) (r : ExecutionRow),
      ∃ visits r', ∀ e, r.load = .ok e → r'.id = r.id ∧
        Settles s now T r e funnel lead visits r' := by
    intro funnel lead r
    cases hload : r.load with
    | error cause => exact ⟨[], r, fun e he => by cases he⟩
    | ok e =>
      obtain ⟨visits, r', hid, hsettles⟩ :
          ∃ visits r', r'.id = r.id ∧ Settles s now T r e funnel lead visits r' :=
        processExecution_settles hm (ExecutionRow.ids_of_load hload).1 funnel lead
      refine ⟨visits, r', fun e' he' => ?_⟩
      obtain rfl := Except.ok.inj he'
      exact ⟨hid, hsettles⟩
  choose V G hVG using hdecided
  exact ⟨V, G, hVG⟩

section
variable {V : Option Funnel → Option Lead → ExecutionRow → List Visit}
  {G : Option Funnel → Option Lead → ExecutionRow → ExecutionRow} {w w₁ : World σ}
  {due : List Execution} {funnels : List Funnel} {leads : List Lead}
  (hVG : ∀ funnel lead r e, r.load = .ok e → (G funnel lead r).id = r.id ∧
    Settles s now w.database.templates r e funnel lead (V funnel lead r) (G funnel lead r))
include hVG

/-- Driving what was read, in whatever order, makes of each row what is decided of it. -/
theorem Reads.drive (hreads : Reads s now w due funnels leads w₁) (hk : w.database.Keyed)
    {rows : List ExecutionRow} (hperm : rows.Perm (w.database.waitingRows.filter (·.isDue now)))
    {es : List Execution} (hload : Loads rows es) :
    ∃ g, Replaced w.database rows g ((driveDue now es funnels leads).run s w₁).2.database ∧
      (∀ r ∈ rows, g r = G (w.database.funnel? r.funnelId) (w.database.lead? r.leadId) r) ∧
      List.Forall₂ (fun r d => d.execution.id = r.id ∧
        d.visits = V (w.database.funnel? r.funnelId) (w.database.lead? r.leadId) r) rows
        (driveLog funnels leads now s es w₁) := by
  have hmem : ∀ r ∈ rows, r ∈ w.database.executions := fun r hr =>
    (Database.mem_waitingRows.mp (List.mem_of_mem_filter (hperm.mem_iff.mp hr))).1
  have hnodup : (rows.map (·.id)).Nodup := (hperm.map _).nodup_iff.mpr hk.nodup_due
  rw [(run_driveDue funnels leads now s es w₁).2]
  have hdecided : ∀ r ∈ rows, ∀ e, r.load = .ok e →
      Decided s now w.database.templates funnels leads
        (fun r => V (w.database.funnel? r.funnelId) (w.database.lead? r.leadId) r)
        (fun r => G (w.database.funnel? r.funnelId) (w.database.lead? r.leadId) r) r e := by
    intro r hr e he
    -- The row is among those that are due, so funnels and leads were read.
    have hne : due ≠ [] := by
      rintro rfl
      have hnone := hreads.load_due.length_eq
      rw [← hperm.length_eq] at hnone
      exact List.ne_nil_of_mem hr (List.length_eq_zero_iff.mp hnone)
    obtain ⟨-, hfunnelId, hleadId⟩ := ExecutionRow.ids_of_load he
    rw [Decided, hreads.find?_funnel hne, hreads.find?_lead hne, hfunnelId, hleadId]
    exact hVG _ _ r e he
  rw [← hreads.database_eq] at hk hmem
  obtain ⟨g, hreplaced, hrest⟩ :=
    collect_decided hload hdecided hk hmem hnodup (by rw [hreads.database_eq])
  rw [hreads.database_eq] at hreplaced
  exact ⟨g, hreplaced, hrest⟩

/-- A pass makes of a row that is due what is decided of it. -/
theorem pass_decided (hs : Steady s) (hk : w.database.Keyed) (hl : w.database.Loadable)
    (hnow : now.isLocal = false) {r : ExecutionRow} (hr : r ∈ w.database.executions)
    (hdue : r.isDue now = true) :
    (PassRun.mk s now w).rowAfter r.id
        = some (G (w.database.funnel? r.funnelId) (w.database.lead? r.leadId) r) ∧
      (PassRun.mk s now w).visits r.id
        = V (w.database.funnel? r.funnelId) (w.database.lead? r.leadId) r := by
  obtain ⟨due, funnels, leads, w₁, hreads⟩ := readDue_known hl hs hnow
  obtain ⟨g, hreplaced, hG, hlog⟩ := hreads.drive hVG hk (.refl _) hreads.load_due
  have hmem : r ∈ w.database.waitingRows.filter (·.isDue now) :=
    w.database.waitingRows_due_perm.mem_iff.mpr (Database.mem_due.mpr ⟨hr, hdue⟩)
  have hafter : (PassRun.mk s now w).after = ((driveDue now due funnels leads).run s w₁).2 := by
    rw [PassRun.after, processExecutions_eq, Action.run_bind_ok hreads.run]
  have hpassLog : passLog now s w = driveLog funnels leads now s due w₁ := by
    rw [passLog, hreads.run]
  constructor
  · rw [PassRun.rowAfter, hafter, hreplaced.find?_eq, hk.find?_id hr, Option.map_some, hG r hmem]
  · obtain ⟨d, -, hvisits, hd⟩ := visitsFor_of_mem hlog hk.nodup_due hmem
    rw [PassRun.visits, hpassLog, hvisits, hd]

end

theorem pass_local (hs : Steady s) {w : World σ} (hk : w.database.Keyed) (hl : w.database.Loadable)
    (hnow : now.isLocal = true) {r : ExecutionRow} (hr : r ∈ w.database.executions)
    (hdue : r.isDue now = true) :
    (PassRun.mk s now w).rowAfter r.id = some r ∧ (PassRun.mk s now w).visits r.id = [] := by
  obtain ⟨w₁, hread⟩ := readDue_local hl hs hnow hr (ExecutionRow.isDue_eq_true_iff.mp hdue).1
  obtain ⟨hdb, -⟩ := (readDue_quiet s now).same_of_run hread
  constructor
  · rw [PassRun.rowAfter, PassRun.after, processExecutions_eq, Action.run_bind_error hread, hdb]
    exact hk.find?_id hr
  · rw [PassRun.visits, passLog, hread]
    rfl

/-- Executions do not get in each other's way in a pass. -/
structure Isolated (s : Surroundings σ) (now : Calendar.Stamp) (w : World σ) : Prop where
  /-- Whatever other executions, funnels and leads there are, a pass leaves the same row of an
  execution that is due, and runs the same nodes for it with the same attempts. -/
  others : ∀ w' : World σ, w'.database.Keyed → w'.database.Loadable →
    w'.database.templates = w.database.templates →
    ∀ r ∈ w.database.executions, r ∈ w'.database.executions → r.isDue now = true →
    w'.database.funnel? r.funnelId = w.database.funnel? r.funnelId →
    w'.database.lead? r.leadId = w.database.lead? r.leadId →
      (∃ r', (PassRun.mk s now w).rowAfter r.id = some r' ∧
        (PassRun.mk s now w').rowAfter r.id = some r') ∧
      (PassRun.mk s now w').visits r.id = (PassRun.mk s now w).visits r.id
  /-- At a time that can be compared, a pass reads the executions that are due, and in whatever
  order they are then driven, the tables are the same afterwards and the same messages were
  attempted. -/
  order : now.isLocal = false → ∃ rows due funnels leads w₁,
    (readDue now).run s w = (.ok (due, funnels, leads), w₁) ∧
    rows.Perm (w.database.due now) ∧ Loads rows due ∧
    ∀ due', due'.Perm due →
      ((driveDue now due' funnels leads).run s w₁).2.database
          = (PassRun.mk s now w).after.database ∧
        ((driveDue now due' funnels leads).run s w₁).2.attempts.Perm
          (PassRun.mk s now w).after.attempts

section
variable {rows : List ExecutionRow}

theorem exists_rows_of_perm {es es' : List Execution} (hload : Loads rows es)
    (hperm : es'.Perm es) : ∃ rows', Loads rows' es' ∧ rows'.Perm rows := by
  obtain ⟨rows', hload', hperm'⟩ := List.perm_comp_forall₂ hperm hload.flip
  exact ⟨rows', hload'.flip, hperm'⟩

theorem driveLog_attempts {V : ExecutionRow → List Visit} {log : List Drive}
    (h : List.Forall₂ (fun r d => d.execution.id = r.id ∧ d.visits = V r) rows log) :
    log.flatMap Drive.attempts = rows.flatMap fun r => (V r).flatMap (·.tried) := by
  induction h with
  | nil => rfl
  | cons hd _ ih => rw [List.flatMap_cons, List.flatMap_cons, ih, Drive.attempts, hd.2]

end

/-- If the outside keeps no memory, what a pass makes of an execution does not depend on the other
executions, nor on when it is its turn. -/
theorem processExecutions_isolated (hs : Steady s) (hm : Memoryless s) {w : World σ}
    (hk : w.database.Keyed) (hl : w.database.Loadable) : Isolated s now w where
  others := by
    intro w' hk' hl' hT r hr hr' hdue hfunnel hlead
    cases hnow : now.isLocal with
    | true =>
      obtain ⟨hrow, hvisits⟩ := pass_local hs hk hl hnow hr hdue
      obtain ⟨hrow', hvisits'⟩ := pass_local hs hk' hl' hnow hr' hdue
      exact ⟨⟨r, hrow, hrow'⟩, hvisits'.trans hvisits.symm⟩
    | false =>
      obtain ⟨V, G, hVG⟩ := exists_decisions hm now w.database.templates
      obtain ⟨hrow, hvisits⟩ := pass_decided hVG hs hk hl hnow hr hdue
      obtain ⟨hrow', hvisits'⟩ := pass_decided (hT ▸ hVG) hs hk' hl' hnow hr' hdue
      rw [hfunnel, hlead] at hrow' hvisits'
      exact ⟨⟨_, hrow, hrow'⟩, hvisits'.trans hvisits.symm⟩
  order := by
    intro hnow
    obtain ⟨due, funnels, leads, w₁, hreads⟩ := readDue_known hl hs hnow
    obtain ⟨V, G, hVG⟩ := exists_decisions hm now w.database.templates
    obtain ⟨g, hreplaced, hG, hlog⟩ := hreads.drive hVG hk (.refl _) hreads.load_due
    refine ⟨_, due, funnels, leads, w₁, hreads.run, w.database.waitingRows_due_perm,
      hreads.load_due, fun due' hperm => ?_⟩
    -- The rows of the executions, in the order in which these are driven.
    obtain ⟨rows', hload', hperm'⟩ := exists_rows_of_perm hreads.load_due hperm
    obtain ⟨g', hreplaced', hG', hlog'⟩ := hreads.drive hVG hk hperm' hload'
    rw [PassRun.after, processExecutions_eq, Action.run_bind_ok hreads.run]
    constructor
    · refine Replaced.eq_of_perm hk (fun r hr => ?_) hperm' hreplaced hreplaced' fun r hr => ?_
      · exact (Database.mem_waitingRows.mp (List.mem_of_mem_filter hr)).1
      · rw [hG r hr, hG' r (hperm'.mem_iff.mpr hr)]
    · rw [(run_driveDue funnels leads now s due' w₁).1,
        (run_driveDue funnels leads now s due w₁).1, driveLog_attempts hlog,
        driveLog_attempts hlog']
      exact (hperm'.flatMap_right _).append_left _

namespace Newsletter

/-- Messages are counted; mail is refused, whatever the count. -/
def mailDown : Surroundings Nat where
  clock := start
  databaseClock := start
  policy := .usual .utc 2
  deliver
    | .email .., o => (⟨some (.undelivered "down"), []⟩, o + 1)
    | .whatsApp .., o => (.accepted, o + 1)
  interrupt _ o := (none, o)

theorem mailDown_steady : Steady mailDown := by
  intro c o i h
  cases h

theorem mailDown_memoryless : Memoryless mailDown where
  refusal m _ _ := by cases m <;> rfl
  interrupt _ _ _ := rfl

/-- The letter of one execution is refused, the other one's funnel is gone: neither is in the way of
the other. -/
theorem crowded_isolated :
    (Steady mailDown ∧ Memoryless mailDown ∧ crowded.database.Keyed ∧
      crowded.database.Loadable) ∧ Isolated mailDown start crowded := by
  have hk : crowded.database.Keyed := ⟨by decide, by decide⟩
  exact ⟨⟨mailDown_steady, mailDown_memoryless, hk, crowded_loadable⟩,
    processExecutions_isolated mailDown_steady mailDown_memoryless hk crowded_loadable⟩

end Newsletter

end Nurture
