import Nurture.Proofs.PassReading
import Nurture.Proofs.StoreReads

/-!
  What a trigger starts

  A trigger by itself adds rows to the table of executions and does nothing else, whatever
  comes in its way (`triggerFunnels_starts`). Each of them belongs to a funnel of its own that is
  listed as active under the trigger: `Starts` is what the row says then. If
  funnels are to be run once at a time, none of them is running for the lead.
-/

namespace Nurture

open Nurture.Action

variable {σ : Type} {s : Surroundings σ} {f : Funnel} {w : World σ} {db db' : Database}
  {trigger : String} {lead : Reply String} {context : Json.Fields} {now : Calendar.Stamp}

/-- The row is that of an execution that starts the funnel for the lead. -/
structure Starts (now : Calendar.Stamp) (leadId : String) (context : Json.Fields) (f : Funnel)
    (r : ExecutionRow) : Prop where
  funnelId_eq : r.funnelId = f.id
  leadId_eq : r.leadId = leadId
  status_eq : r.status = Status.waiting.name
  nodes_ne : f.nodes ≠ []
  place : ∃ start, reference f.start = some start ∧ r.currentNodeId = some start
  nextRunAt_eq : r.nextRunAt = now.instant
  history_eq : r.history = Execution.historyJson []
  context_good : Validation.textMapping (.obj context) = .good r.context

/-- The rows were added at the end, under identifiers of their own, and nothing else was changed. -/
structure Adds (news : List ExecutionRow) (db db' : Database) : Prop where
  database_eq : db' = { db with executions := db.executions ++ news }
  keyed : db.Keyed → db'.Keyed

theorem Adds.nothing (h : db' = db) : Adds [] db db' where
  database_eq := by rw [h, List.append_nil]
  keyed hk := h ▸ hk

theorem Adds.append {news more : List ExecutionRow} {db₁ db₂ : Database} (h : Adds news db db₁)
    (h' : Adds more db₁ db₂) : Adds (news ++ more) db db₂ where
  database_eq := by rw [h'.database_eq, h.database_eq, List.append_assoc]
  keyed := h'.keyed ∘ h.keyed

theorem Adds.single {r : ExecutionRow} (hwhole : Text.isWhole r.id = true)
    (hnew : ∀ x ∈ db.executions, x.id ≠ r.id) :
    Adds [r] db { db with executions := db.executions ++ [r] } := by
  refine ⟨rfl, fun hk => ⟨?_, fun x hx => ?_⟩⟩
  · rw [List.map_append, List.map_singleton, ← List.concat_eq_append]
    refine hk.nodup.concat fun hmem => ?_
    obtain ⟨x, hx, hid⟩ := List.mem_map.mp hmem
    exact hnew x hx hid
  · rcases List.mem_append.mp hx with hx | hx
    · exact hk.whole x hx
    · obtain rfl := List.mem_singleton.mp hx
      exact hwhole

theorem Store.Added.adds {draft : Draft Execution} (h : Store.Added now draft db db') :
    ∃ id, Adds [Store.rowOf (draft.withId id) now] db db' := by
  obtain ⟨hwhole, hnew⟩ := h
  rename_i id
  exact ⟨id, .single hwhole hnew⟩

theorem newExecution_eq_ok_iff {start leadId : String} {draft : Draft Execution} :
    newExecution f start leadId context now = .ok draft ↔ ∃ m texts, now.toUtc = .ok m ∧
      Validation.textMapping (.obj context) = .good texts ∧
      draft = ⟨none, fun id =>
        { id := id, funnelId := f.id, leadId := leadId, currentNodeId := some start,
          status := .waiting, nextRunAt := m.toStamp, history := [], context := texts,
          createdAt := none }⟩ := by
  unfold newExecution
  constructor
  · intro h
    obtain ⟨m, hm, h⟩ := bind_eq_ok_iff.mp h
    obtain ⟨texts, htexts, h⟩ := bind_eq_ok_iff.mp h
    cases h
    exact ⟨m, texts, mapError_eq_ok_iff.mp hm, Validation.Checked.within_eq_good_iff.mp
      (toExcept_eq_ok_iff.mp (mapError_eq_ok_iff.mp htexts)), rfl⟩
  · rintro ⟨m, texts, hm, htexts, rfl⟩
    refine bind_eq_ok_iff.mpr ⟨m, mapError_eq_ok_iff.mpr hm, bind_eq_ok_iff.mpr ⟨texts, ?_, rfl⟩⟩
    exact mapError_eq_ok_iff.mpr
      (toExcept_eq_ok_iff.mpr (Validation.Checked.within_eq_good_iff.mpr htexts))

theorem newExecution_starts {start leadId : String} {draft : Draft Execution}
    (hnodes : f.nodes ≠ []) (hstart : reference f.start = some start)
    (h : newExecution f start leadId context now = .ok draft) (id : String)
    (written : Calendar.Stamp) :
    Starts now leadId context f (Store.rowOf (draft.withId id) written) := by
  obtain ⟨m, texts, hm, htexts, rfl⟩ := newExecution_eq_ok_iff.mp h
  refine ⟨rfl, rfl, rfl, hnodes, ⟨start, hstart, rfl⟩, ?_, rfl, htexts⟩
  show m.toStamp.instant = now.instant
  rw [Calendar.Stamp.instant_toStamp, Calendar.Moment.instant_of_toUtc hm,
    Calendar.Stamp.instant_toMoment]

/-! ## One funnel -/

/-- What holds of the world in which the first action ends, by whichever end, and is kept by what
follows, holds at the end. -/
theorem Action.run_bind_of {α β : Type} {x : Action σ α} {k : α → Action σ β} (P : World σ → Prop)
    (hx : ∀ e w₁, x.run s w = (.error e, w₁) → P w₁)
    (hk : ∀ a w₁, x.run s w = (.ok a, w₁) → P ((k a).run s w₁).2) : P ((x >>= k).run s w).2 := by
  rw [run_bind]
  rcases hrun : x.run s w with ⟨e | a, w₁⟩
  · exact hx e w₁ hrun
  · exact hk a w₁ hrun

theorem identified_eq_ok_iff {leadId : String} :
    identified lead = .ok leadId ↔ lead = .own leadId := by
  cases lead with
  | own id => simp [identified]
  | foreign j => simp [identified]

/-- The node at which a funnel starts, if it has nodes and a start. -/
def Funnel.entry? (f : Funnel) : Option String :=
  if f.nodes.isEmpty then none else reference f.start

theorem Funnel.entry?_eq_some_iff {start : String} :
    f.entry? = some start ↔ f.nodes ≠ [] ∧ reference f.start = some start := by
  unfold entry?
  cases f.nodes <;> simp

variable (s trigger lead context now) in
/-- Starting a funnel adds a row for it, or nothing. -/
theorem startFunnel_adds (running : List String) (f : Funnel) (w : World σ) :
    ((startFunnel trigger lead context running now f).run s w).2.attempts = w.attempts ∧
      (((startFunnel trigger lead context running now f).run s w).2.database = w.database ∨
        ∃ leadId r, lead = .own leadId ∧ f.id ∉ running ∧ Starts now leadId context f r ∧
          Adds [r] w.database
            ((startFunnel trigger lead context running now f).run s w).2.database) := by
  unfold startFunnel
  rw [← Funnel.entry?]
  cases hstart : f.entry? with
  | none => exact ⟨rfl, .inl rfl⟩
  | some start =>
    obtain ⟨hnodes, hreference⟩ := Funnel.entry?_eq_some_iff.mp hstart
    dsimp only
    rw [run_bind, run_ofExcept]
    cases hid : identified lead with
    | error e => exact ⟨rfl, .inl rfl⟩
    | ok leadId =>
      dsimp only
      by_cases hrunning : running.contains f.id = true
      · rw [if_pos hrunning]
        exact ⟨rfl, .inl rfl⟩
      · rw [if_neg hrunning, run_bind, run_ofExcept]
        cases hdraft : newExecution f start leadId context now with
        | error e => exact ⟨rfl, .inl rfl⟩
        | ok draft =>
          -- what follows the call only notes it
          have hcreate := Store.createExecution_cases (s := s) draft w
          have hnew : Store.Added s.databaseClock draft w.database
              ((Store.createExecution draft).run s w).2.database →
              ∃ leadId r, lead = .own leadId ∧ f.id ∉ running ∧ Starts now leadId context f r ∧
                Adds [r] w.database ((Store.createExecution draft).run s w).2.database := by
            intro hadded
            obtain ⟨id, hadds⟩ := hadded.adds
            refine ⟨leadId, _, identified_eq_ok_iff.mp hid, ?_,
              newExecution_starts hnodes hreference hdraft id s.databaseClock, hadds⟩
            simpa using hrunning
          dsimp only
          rw [run_bind]
          rcases hrun : (Store.createExecution draft).run s w with ⟨e | reply, w₁⟩
          · rw [hrun] at hcreate hnew
            exact hcreate.imp_right (Or.imp_right hnew)
          · rw [hrun] at hcreate hnew
            exact hcreate.imp_right (Or.imp_right hnew)

theorem run_startFunnel_of_created {w' : World σ} {leadId start : String} {running : List String}
    {draft : Draft Execution} {e : Execution} (hstart : f.entry? = some start)
    (hrunning : running.contains f.id = false)
    (hdraft : newExecution f start leadId context now = .ok draft)
    (hcreate : (Store.createExecution draft).run s w = (.ok (.own e), w')) :
    (startFunnel trigger (.own leadId) context running now f).run s w
      = (.ok (some e),
        { w' with journal := w'.journal ++ [.started e.id f.name trigger leadId] }) := by
  unfold startFunnel
  rw [← Funnel.entry?, hstart]
  dsimp only
  rw [identified, run_bind_ok (run_ofExcept _ s w), hrunning, if_neg Bool.false_ne_true, hdraft,
    run_bind_ok (run_ofExcept _ s w), run_bind_ok hcreate]
  rfl

/-! ## The funnels that a lead is running -/

/-- The rows of a status, a funnel, a lead. -/
def Database.selected (status funnelId leadId : Option String) (db : Database) :
    List ExecutionRow :=
  inOrder (·.createdAt) (db.executions.filter fun r =>
    Store.passes status r.status && Store.passes funnelId r.funnelId
      && Store.passes leadId r.leadId)

theorem listExecutions_lists (status funnelId leadId : Option String) :
    Lists s (Store.listExecutions status funnelId leadId)
      (Database.selected status funnelId leadId) ExecutionRow.load := by
  refine .of_body fun w => ?_
  rw [run_bind, run_ofExcept]
  cases Store.checkStatusFilter status with
  | error e => exact ⟨_, rfl, by simp⟩
  | ok _ =>
    dsimp only
    rw [run_bind, run_ofExcept]
    cases Column.optional funnelId with
    | error e => exact ⟨_, rfl, by simp⟩
    | ok _ =>
      dsimp only
      rw [run_bind, run_ofExcept]
      cases Column.optional leadId with
      | error e => exact ⟨_, rfl, by simp⟩
      | ok _ =>
        dsimp only
        rw [run_bind_ok (run_database s w), run_ofExcept]
        exact ⟨_, rfl, fun items h => mapM_eq_ok_iff.mp h⟩

/-- Nothing else answers the call. -/
def Surroundings.Genuine (s : Surroundings σ) (c : Call) : Prop :=
  ∀ o j, (s.interrupt c o).1 ≠ some (.answers j)

theorem own_of_genuine {α : Type} {c : Call} {body : Action σ α} {reply : Reply α} {w₁ : World σ}
    (hs : s.Genuine c) (h : (guarded c body).run s w = (.ok reply, w₁)) :
    ∃ a, reply = .own a := by
  unfold guarded at h
  obtain ⟨o, ⟨reason, hrun⟩ | ⟨j, hj, -⟩ | hrun⟩ := relayed_cases c (.own <$> body) s w
  · rw [hrun] at h
    cases h
  · exact absurd (by rw [hj]) (hs w.outside j)
  · rw [hrun, run_map] at h
    obtain ⟨a, -, rfl⟩ := map_eq_ok_iff.mp (congrArg Prod.fst h)
    exact ⟨a, rfl⟩

/-- If funnels are to be run once at a time, none that the lead is running is missed. -/
theorem runningFunnels_knows {running : List String} {w₁ : World σ}
    (hdedupe : s.policy.dedupe = true) (hs : s.Genuine .listExecutions)
    (h : (runningFunnels lead).run s w = (.ok running, w₁)) :
    ∀ r ∈ w.database.executions, r.status = Status.waiting.name → lead = .own r.leadId →
      r.funnelId ∈ running := by
  rintro r hr hwaits rfl
  unfold runningFunnels at h
  change (if s.policy.dedupe = true then _ else _ : Action σ (List String)).run s w = _ at h
  rw [if_pos hdedupe] at h
  obtain ⟨id, hid, h⟩ := run_ofExcept_bind_eq_ok h
  cases hid
  obtain ⟨reply, w₂, hlist, h⟩ := run_bind_eq_ok h
  obtain ⟨items, hitems, h⟩ := run_ofExcept_bind_eq_ok h
  cases h
  obtain ⟨items', rfl⟩ := own_of_genuine hs hlist
  cases hitems
  have hloads := (listExecutions_lists _ _ _).own w items (by rw [hlist])
  have hmem : r ∈ w.database.selected (some Status.waiting.name) none (some r.leadId) := by
    rw [Database.selected, mem_inOrder, List.mem_filter]
    exact ⟨hr, by simp [Store.passes, hwaits]⟩
  obtain ⟨e, he, hload⟩ := exists_mem_of_forall₂ hloads hmem
  rw [← (ExecutionRow.ids_of_load hload).2.1]
  exact List.mem_map_of_mem he

/-! ## The funnels of a trigger -/

variable (s trigger lead context now) in
/-- Starting funnels one after the other adds rows for some of them, in their order. -/
theorem collect_adds (running : List String) (fs : List Funnel) (w : World σ) :
    ((collect (startFunnel trigger lead context running now) fs).run s w).2.attempts
        = w.attempts ∧
      ∃ gs news, gs.Sublist fs ∧ Adds news w.database
          ((collect (startFunnel trigger lead context running now) fs).run s w).2.database ∧
        List.Forall₂ (fun f r => ∃ leadId, lead = .own leadId ∧ f.id ∉ running ∧
          Starts now leadId context f r) gs news := by
  induction fs generalizing w with
  | nil => exact ⟨rfl, [], [], .slnil, .nothing rfl, .nil⟩
  | cons f fs ih =>
    obtain ⟨hattempts, hfirst⟩ := startFunnel_adds s trigger lead context now running f w
    obtain ⟨gs₀, news₀, hgs₀, hadds₀, hstarts₀⟩ : ∃ gs news, gs.Sublist [f] ∧ Adds news w.database
          ((startFunnel trigger lead context running now f).run s w).2.database ∧
        List.Forall₂ (fun f r => ∃ leadId, lead = .own leadId ∧ f.id ∉ running ∧
          Starts now leadId context f r) gs news := by
      rcases hfirst with hdb | ⟨leadId, r, hlead, hnot, hstarts, hadds⟩
      · exact ⟨[], [], List.nil_sublist _, .nothing hdb, .nil⟩
      · exact ⟨[f], [r], .refl _, hadds, .cons ⟨leadId, hlead, hnot, hstarts⟩ .nil⟩
    unfold collect
    rw [run_bind]
    rcases hrun : (startFunnel trigger lead context running now f).run s w with ⟨e | e?, w₁⟩
    · -- the loop breaks off
      rw [hrun] at hattempts hadds₀
      exact ⟨hattempts, gs₀, news₀, hgs₀.trans (List.singleton_sublist.mpr List.mem_cons_self),
        hadds₀, hstarts₀⟩
    · rw [hrun] at hattempts hadds₀
      obtain ⟨hattempts', gs, news, hgs, hadds, hstarts⟩ := ih w₁
      dsimp only
      rw [snd_run_bind_pure]
      exact ⟨hattempts'.trans hattempts, gs₀ ++ gs, news₀ ++ news, hgs₀.append hgs,
        hadds₀.append hadds, List.rel_append hstarts₀ hstarts⟩

/-- What a trigger did by itself: rows were added for some of the funnels that listen for it, each
of which starts its funnel for the lead. -/
structure Triggered (s : Surroundings σ) (trigger : String) (lead : Reply String)
    (context : Json.Fields) (w w' : World σ) : Prop where
  attempts_eq : w'.attempts = w.attempts
  starts : ∃ all gs news,
    (all = [] ∨ List.Forall₂ (fun r f => FunnelRow.load r = .ok f) w.database.funnelRows all) ∧
    gs.Sublist (all.filter fun f => f.isActive && f.trigger == trigger) ∧
    Adds news w.database w'.database ∧
    List.Forall₂ (fun f r => ∃ leadId, lead = .own leadId ∧ Starts s.clock leadId context f r)
      gs news ∧
    (s.policy.dedupe = true → s.Genuine .listExecutions → ∀ f ∈ gs,
      ∀ r ∈ w.database.executions, r.status = Status.waiting.name → lead = .own r.leadId →
        r.funnelId ≠ f.id)

theorem Triggered.nothing {w' : World σ} (hdb : w'.database = w.database)
    (hattempts : w'.attempts = w.attempts) : Triggered s trigger lead context w w' :=
  ⟨hattempts, [], [], [], .inl rfl, .slnil, .nothing hdb, .nil, by simp⟩

/-- Whatever comes in its way, a trigger starts funnels that listen for it, each once at most, and
does nothing else. -/
theorem triggerFunnels_starts (trigger : String) (lead : Reply String) (context : Json.Fields)
    (w : World σ) : Triggered s trigger lead context w
      ((triggerFunnels trigger lead context false).run s w).2 := by
  unfold triggerFunnels
  refine run_bind_of (Triggered s trigger lead context w) (fun e w₁ hlist => ?_)
    fun reply w₁ hlist => ?_
  · obtain ⟨hdb, hattempts⟩ := Store.listFunnels_still.quiet.same_of_run hlist
    exact .nothing hdb hattempts
  obtain ⟨hdb, hattempts⟩ := Store.listFunnels_still.quiet.same_of_run hlist
  rw [run_bind, run_ofExcept]
  cases hall : reply.records "is_active" with
  | error e => exact .nothing hdb hattempts
  | ok all =>
    have hloads : all = [] ∨
        List.Forall₂ (fun r f => FunnelRow.load r = .ok f) w.database.funnelRows all := by
      rcases records_eq_ok hall with rfl | rfl
      · exact .inr (listFunnels_lists.own w all (by rw [hlist]))
      · exact .inl rfl
    dsimp only
    split
    · exact .nothing hdb hattempts
    refine run_bind_of (Triggered s trigger lead context w) (fun e w₂ hrunning => ?_)
      fun running w₂ hrunning => ?_
    · obtain ⟨hdb₂, hattempts₂⟩ := (runningFunnels_still lead).quiet.same_of_run hrunning
      exact .nothing (hdb₂.trans hdb) (hattempts₂.trans hattempts)
    obtain ⟨hdb₂, hattempts₂⟩ := (runningFunnels_still lead).quiet.same_of_run hrunning
    obtain ⟨hattempts₃, gs, news, hgs, hadds, hstarts⟩ := collect_adds s trigger lead context
      s.clock running (all.filter fun f => f.isActive && f.trigger == trigger) w₂
    rw [run_bind_ok (run_clock s w₂)]
    simp only [Bool.and_false, Bool.false_eq_true, if_false]
    rw [snd_run_bind_pure]
    rw [hdb₂, hdb] at hadds
    refine ⟨hattempts₃.trans (hattempts₂.trans hattempts), all, gs, news, hloads, hgs, hadds,
      hstarts.imp fun f r h => ⟨h.choose, h.choose_spec.1, h.choose_spec.2.2⟩, ?_⟩
    -- what is running was looked up before the first row was added
    intro hdedupe hs f hf r hr hwaits hlead hid
    obtain ⟨r', -, leadId, -, hnot, -⟩ := exists_mem_of_forall₂ hstarts hf
    rw [← hid] at hnot
    exact hnot (runningFunnels_knows hdedupe hs hrunning r (hdb ▸ hr) hwaits hlead)

end Nurture
