import Nurture.Proofs.PassReport
import Nurture.Proofs.Starts

/-!
  What triggers start

  A trigger starts each funnel that is eligible for the lead exactly once, and a broadcast
  starts it so for every active lead (`triggers_exact`), as far as what they look up can be read
  and what they write can be written. The executions that a broadcast makes for one lead
  do not count against another one (`Adds.isRunning_eq`), so which funnels are eligible can be
  read off the tables before the first row is added.
-/

namespace Nurture

open Nurture.Action

variable {σ : Type} {s : Surroundings σ} {w w' : World σ} {db db' : Database} {f : Funnel}
  {trigger leadId : String} {texts : Context}

/-! ## What is eligible -/

/-- Whether an execution of the funnel waits for the lead. -/
def Database.isRunning (db : Database) (leadId funnelId : String) : Bool :=
  db.executions.any fun r =>
    r.status == Status.waiting.name && r.leadId == leadId && r.funnelId == funnelId

/-- Whether the trigger starts the funnel for the lead. -/
def Funnel.isEligible (db : Database) (dedupe : Bool) (trigger leadId : String) (f : Funnel) :
    Bool :=
  f.isActive && f.trigger == trigger && f.entry?.isSome && !(dedupe && db.isRunning leadId f.id)

/-- The lead with each of the funnels that the trigger starts for it. -/
def Database.eligible (db : Database) (dedupe : Bool) (trigger leadId : String)
    (fs : List Funnel) : List (String × Funnel) :=
  (fs.filter (·.isEligible db dedupe trigger leadId)).map fun f => (leadId, f)

theorem Database.isRunning_iff {funnelId : String} :
    db.isRunning leadId funnelId = true ↔ ∃ r ∈ db.executions,
      r.status = Status.waiting.name ∧ r.leadId = leadId ∧ r.funnelId = funnelId := by
  simp [isRunning, and_assoc]

/-- A funnel is eligible if it is active, listens for the trigger, has nodes and a start, and is
not one that the lead is running while it must be run once at a time. -/
theorem Funnel.isEligible_iff {dedupe : Bool} :
    f.isEligible db dedupe trigger leadId = true ↔
      f.isActive = true ∧ f.trigger = trigger ∧ f.nodes ≠ [] ∧
      (∃ start, f.start = some start ∧ start ≠ "") ∧
      (dedupe = true → ¬ ∃ r ∈ db.executions,
        r.status = Status.waiting.name ∧ r.leadId = leadId ∧ r.funnelId = f.id) := by
  have hentry : f.entry?.isSome = true ↔
      f.nodes ≠ [] ∧ ∃ start, f.start = some start ∧ start ≠ "" := by
    simp only [Option.isSome_iff_exists, entry?_eq_some_iff, reference_eq_some_iff,
      exists_and_left]
  rw [← Database.isRunning_iff, isEligible, Bool.and_eq_true, Bool.and_eq_true, Bool.and_eq_true,
    hentry, beq_iff_eq, Bool.not_eq_true', Bool.and_eq_false_imp, Bool.not_eq_true]
  simp only [and_assoc]

theorem Database.eligible_eq {dedupe : Bool} {fs : List Funnel} :
    db.eligible dedupe trigger leadId fs
      = ((fs.filter fun f => f.isActive && f.trigger == trigger).filter fun f =>
          f.entry?.isSome && !(dedupe && db.isRunning leadId f.id)).map fun f => (leadId, f) := by
  rw [eligible, List.filter_filter]
  congr 2
  funext f
  rw [Funnel.isEligible, Bool.and_assoc, Bool.and_comm]

/-! ## What is needed -/

/-- A context as data. -/
def Context.fields (texts : Context) : Json.Fields := texts.map fun c => (c.1, .str c.2)

theorem textMapping_fields (texts : Context) :
    Validation.textMapping (.obj (Context.fields texts)) = .good texts := by
  induction texts with
  | nil => rfl
  | cons c texts ih =>
    rw [Validation.textMapping] at ih
    rw [Validation.textMapping, Context.fields, List.map_cons, List.foldr_cons, ← Context.fields,
      ih]
    rfl

/-- No row has an identifier that is still to be given out. -/
def World.Unissued (w : World σ) : Prop :=
  ∀ k, w.issued.executions < k → ∀ r ∈ w.database.executions,
    r.id ≠ w.issued.naming.name .execution k

/-- Nothing comes in the way of the store, funnels can be read, and rows can be written: the clocks
show times that UTC has, and identifiers are new. -/
structure Ready (s : Surroundings σ) (w : World σ) : Prop where
  steady : Steady s
  clock_inRange : Calendar.inRange s.clock.instant = true
  databaseClock_inRange : Calendar.inRange s.databaseClock.instant = true
  unissued : w.Unissued
  load_funnels : ∀ r ∈ w.database.funnels, ∃ f, FunnelRow.load r = .ok f
  whole_funnels : ∀ r ∈ w.database.funnels, Text.isWhole r.id = true

/-- The lead can be searched for, and so can be read what it is running if that is looked up. -/
structure Database.Admits (db : Database) (dedupe : Bool) (leadId : String) : Prop where
  ne_empty : leadId ≠ ""
  whole : Text.isWhole leadId = true
  load : dedupe = true → ∀ r ∈ db.executions, r.status = Status.waiting.name →
    r.leadId = leadId → ∃ e, r.load = .ok e

/-- The executions start the funnels for the leads, pair by pair and at the same time; their rows
are what was added, and nothing else was changed. -/
structure StartsAll (s : Surroundings σ) (texts : Context) (pairs : List (String × Funnel))
    (created : List Execution) (w w' : World σ) : Prop where
  adds : Adds (created.map (Store.rowOf · s.databaseClock)) w.database w'.database
  starts : List.Forall₂ (fun p e =>
    Starts s.clock p.1 (Context.fields texts) p.2 (Store.rowOf e s.databaseClock)) pairs created
  context_eq : ∀ e ∈ created, e.context = texts
  attempts_eq : w'.attempts = w.attempts
  /-- What is still to be given out stays new. -/
  unissued : w.Unissued → w'.Unissued

section
variable {pairs more : List (String × Funnel)} {created others : List Execution} {w₁ : World σ}

theorem StartsAll.nothing (hdb : w'.database = w.database) (hattempts : w'.attempts = w.attempts)
    (hissued : w'.issued = w.issued) : StartsAll s texts [] [] w w' where
  adds := .nothing hdb
  starts := .nil
  context_eq := by simp
  attempts_eq := hattempts
  unissued h := by
    unfold World.Unissued
    rw [hdb, hissued]
    exact h

theorem StartsAll.append (h : StartsAll s texts pairs created w w₁)
    (h' : StartsAll s texts more others w₁ w') :
    StartsAll s texts (pairs ++ more) (created ++ others) w w' where
  adds := by
    rw [List.map_append]
    exact h.adds.append h'.adds
  starts := List.rel_append h.starts h'.starts
  context_eq e he := (List.mem_append.mp he).elim (h.context_eq e) (h'.context_eq e)
  attempts_eq := h'.attempts_eq.trans h.attempts_eq
  unissued := h'.unissued ∘ h.unissued

theorem Ready.funnels_good (hw : Ready s w) {fs : List Funnel}
    (hfs : List.Forall₂ (fun r f => FunnelRow.load r = .ok f) w.database.funnelRows fs) :
    ∀ f ∈ fs, f.Validated ∧ Text.isWhole f.id = true := by
  intro f hf
  obtain ⟨r, hr, hload⟩ := exists_mem_of_forall₂ hfs.flip hf
  refine ⟨FunnelRow.validated_of_load hload, ?_⟩
  rw [FunnelRow.id_of_load hload]
  exact hw.whole_funnels r (mem_inOrder.mp hr)

theorem Ready.after (hw : Ready s w) (h : StartsAll s texts pairs created w w') : Ready s w' where
  steady := hw.steady
  clock_inRange := hw.clock_inRange
  databaseClock_inRange := hw.databaseClock_inRange
  unissued := h.unissued hw.unissued
  load_funnels := by
    rw [h.adds.database_eq]
    exact hw.load_funnels
  whole_funnels := by
    rw [h.adds.database_eq]
    exact hw.whole_funnels

end

/-! ## One funnel -/

theorem Calendar.Stamp.exists_toUtc {t : Calendar.Stamp} (h : Calendar.inRange t.instant = true) :
    ∃ m, t.toUtc = .ok m := by
  unfold toUtc Moment.toUtc
  split
  · exact ⟨_, rfl⟩
  · rw [instant_toMoment, if_pos h]
    exact ⟨_, rfl⟩

variable (texts) in
theorem exists_draft {start : String} (hclock : Calendar.inRange s.clock.instant = true)
    (hdated : Calendar.inRange s.databaseClock.instant = true)
    (hid : Text.isWhole f.id = true) (hlead : Text.isWhole leadId = true)
    (hstart : Text.isWhole start = true) :
    ∃ draft, newExecution f start leadId (Context.fields texts) s.clock = .ok draft ∧
      draft.id = none ∧ ∀ id, (draft.withId id).id = id ∧ (draft.withId id).context = texts ∧
        (Text.isWhole id = true → (draft.withId id).newRow s.databaseClock
          = .ok (Store.rowOf (draft.withId id) s.databaseClock)) := by
  obtain ⟨m, hm⟩ := Calendar.Stamp.exists_toUtc hclock
  have hutc : m.toStamp.toUtc = .ok m := if_pos (Calendar.Moment.offset_of_toUtc hm)
  refine ⟨_, newExecution_eq_ok_iff.mpr ⟨m, texts, hm, textMapping_fields texts, rfl⟩, rfl,
    fun id => ⟨rfl, rfl, fun hwhole => ?_⟩⟩
  have hnode : ∀ node ∈ some start, Text.isWhole node = true := by
    rintro _ ⟨⟩
    exact hstart
  exact Store.newRow_eq_ok_iff.mpr
    ⟨⟨m, hutc⟩, hwhole, Store.checkTexts_eq_ok_iff.mpr ⟨hid, hlead, hnode⟩, hdated, rfl⟩

theorem World.Unissued.add {r : ExecutionRow} (hw : w.Unissued)
    (hid : r.id = w.issued.naming.name .execution (w.issued.executions + 1))
    (hissued : w'.issued = { w.issued with executions := w.issued.executions + 1 })
    (hdb : w'.database.executions = w.database.executions ++ [r]) : w'.Unissued := by
  intro k hk x hx heq
  rw [hissued] at hk heq
  rw [hdb, List.mem_append, List.mem_singleton] at hx
  rcases hx with hx | rfl
  · exact hw k (Nat.lt_of_succ_lt hk) x hx heq
  · have := w.issued.naming.distinct _ _ _ (hid.symm.trans heq)
    exact absurd hk (by simp only; omega)

section
variable {running : List String}

variable (trigger texts) in
theorem run_startFunnel_entered {start : String} (hw : Ready s w) (hf : f.Validated)
    (hid : Text.isWhole f.id = true) (hlead : Text.isWhole leadId = true)
    (hentry : f.entry? = some start) (hrunning : running.contains f.id = false) :
    ∃ e w', (startFunnel trigger (.own leadId) (Context.fields texts) running s.clock f).run s w
        = (.ok (some e), w') ∧ StartsAll s texts [(leadId, f)] [e] w w' := by
  obtain ⟨hnodes, hreference⟩ := Funnel.entry?_eq_some_iff.mp hentry
  have hstart : Text.isWhole start = true :=
    hf.id_whole_of_mem_ids (hf.graph.start_mem start (reference_eq_some_iff.mp hreference).1)
  obtain ⟨draft, hdraft, hnone, hkept⟩ :=
    exists_draft texts hw.clock_inRange hw.databaseClock_inRange hid hlead hstart
  generalize hn : w.issued.naming.name .execution (w.issued.executions + 1) = n
  obtain ⟨hdraftId, hcontext, hrow⟩ := hkept n
  have hwhole : Text.isWhole (draft.withId n).id = true := by
    rw [hdraftId, ← hn]
    exact w.issued.naming.whole _ _
  have hnew : ∀ r ∈ w.database.executions, r.id ≠ (draft.withId n).id := by
    rw [hdraftId, ← hn]
    exact hw.unissued _ (Nat.lt_succ_self _)
  obtain ⟨w', hcreate, hissued, hattempts, hdb⟩ := Store.createExecution_of_none
    (hw.steady.none_of (by decide) (by decide) (by decide) w.outside) hnone hn.symm
    (hrow (hdraftId ▸ hwhole)) hnew
  refine ⟨_, _, run_startFunnel_of_created hentry hrunning hdraft hcreate,
    { adds := ?_
      starts := .cons (newExecution_starts hnodes hreference hdraft n s.databaseClock) .nil
      context_eq := by simpa using hcontext
      attempts_eq := hattempts
      unissued := fun h => h.add (hdraftId.trans hn.symm) hissued (congrArg (·.executions) hdb) }⟩
  show Adds _ _ w'.database
  rw [hdb]
  exact .single hwhole hnew

theorem run_startFunnel_idle {context : Json.Fields} {now : Calendar.Stamp}
    (h : (f.entry?.isSome && !running.contains f.id) = false) :
    ∃ events, (startFunnel trigger (.own leadId) context running now f).run s w
      = (.ok none, { w with journal := w.journal ++ events }) := by
  unfold startFunnel
  rw [← Funnel.entry?]
  cases hentry : f.entry? with
  | none => exact ⟨_, rfl⟩
  | some start =>
    have hrunning : running.contains f.id = true := by
      rwa [hentry, Option.isSome_some, Bool.true_and, Bool.not_eq_false'] at h
    dsimp only
    rw [identified, run_bind_ok (run_ofExcept _ s w), hrunning]
    exact ⟨_, rfl⟩

variable (trigger texts running) in
theorem run_startFunnel (hw : Ready s w) (hf : f.Validated) (hid : Text.isWhole f.id = true)
    (hlead : Text.isWhole leadId = true) :
    ∃ e? w', (startFunnel trigger (.own leadId) (Context.fields texts) running s.clock f).run s w
        = (.ok e?, w') ∧
      StartsAll s texts
        (([f].filter fun f => f.entry?.isSome && !running.contains f.id).map fun f => (leadId, f))
        e?.toList w w' := by
  rw [List.filter_singleton]
  cases hgoes : f.entry?.isSome && !running.contains f.id with
  | false =>
    obtain ⟨events, hrun⟩ := run_startFunnel_idle hgoes
    exact ⟨none, _, hrun, .nothing rfl rfl rfl⟩
  | true =>
    rw [Bool.and_eq_true, Option.isSome_iff_exists, Bool.not_eq_true'] at hgoes
    obtain ⟨⟨start, hentry⟩, hrunning⟩ := hgoes
    obtain ⟨e, w', hrun, hstarts⟩ :=
      run_startFunnel_entered trigger texts hw hf hid hlead hentry hrunning
    exact ⟨some e, w', hrun, hstarts⟩

variable (trigger texts running) in
theorem run_collect_startFunnel (hlead : Text.isWhole leadId = true) {fs : List Funnel}
    (hfs : ∀ f ∈ fs, f.Validated ∧ Text.isWhole f.id = true) (hw : Ready s w) :
    ∃ es w', (collect (startFunnel trigger (.own leadId) (Context.fields texts) running s.clock)
        fs).run s w = (.ok es, w') ∧
      StartsAll s texts
        ((fs.filter fun f => f.entry?.isSome && !running.contains f.id).map fun f => (leadId, f))
        (es.filterMap id) w w' := by
  induction fs generalizing w with
  | nil => exact ⟨[], w, rfl, .nothing rfl rfl rfl⟩
  | cons f fs ih =>
    obtain ⟨hf, hid⟩ := hfs f List.mem_cons_self
    obtain ⟨e?, w₁, hfirst, hstarts₁⟩ := run_startFunnel trigger texts running hw hf hid hlead
    obtain ⟨es, w', hrun, hstarts⟩ :=
      ih (fun g hg => hfs g (List.mem_cons_of_mem f hg)) (hw.after hstarts₁)
    refine ⟨e? :: es, w', ?_, ?_⟩
    · unfold collect
      rw [run_bind_ok hfirst, run_bind_ok hrun]
      rfl
    · rw [← List.singleton_append, List.filter_append, List.map_append]
      have hcreated : (e? :: es).filterMap id = e?.toList ++ es.filterMap id := by
        cases e? <;> rfl
      rw [hcreated]
      exact hstarts₁.append hstarts

end

/-! ## One lead -/

theorem listExecutions_waiting_eq (hwhole : Text.isWhole leadId = true) :
    (Store.listExecutions (some Status.waiting.name) none (some leadId) : Action σ _)
      = guarded .listExecutions (listing
          (Database.selected (some Status.waiting.name) none (some leadId)) ExecutionRow.load) := by
  have hstatus : Store.checkStatusFilter (some Status.waiting.name) = .ok () := by
    simp [Store.checkStatusFilter]
  have hlead : Column.optional (some leadId) = .ok (some leadId) := Column.text_str hwhole
  unfold Store.listExecutions
  rw [hstatus, hlead]
  rfl

theorem Store.passes_iff {name value : String} (hne : name ≠ "") :
    passes (some name) value = true ↔ value = name := by
  rw [passes, Bool.or_eq_true, beq_iff_eq, beq_iff_eq, or_iff_right hne, eq_comm]

theorem Database.mem_selected_waiting (hne : leadId ≠ "") {r : ExecutionRow} :
    r ∈ db.selected (some Status.waiting.name) none (some leadId) ↔
      r ∈ db.executions ∧ r.status = Status.waiting.name ∧ r.leadId = leadId := by
  have hname : Status.waiting.name ≠ "" := by decide
  rw [selected, mem_inOrder, List.mem_filter, Bool.and_eq_true, Bool.and_eq_true,
    Store.passes_iff hname, Store.passes_iff hne]
  simp [Store.passes]

theorem Database.mem_funnelIds_iff (hne : leadId ≠ "") {es : List Execution}
    (h : Loads (db.selected (some Status.waiting.name) none (some leadId)) es) (funnelId : String) :
    funnelId ∈ es.map (·.funnelId) ↔ db.isRunning leadId funnelId = true := by
  rw [isRunning_iff, List.mem_map]
  constructor
  · rintro ⟨e, he, rfl⟩
    obtain ⟨r, hr, hload⟩ := exists_mem_of_forall₂ h.flip he
    obtain ⟨hmem, hwaits, hid⟩ := (mem_selected_waiting hne).mp hr
    exact ⟨r, hmem, hwaits, hid, (ExecutionRow.ids_of_load hload).2.1.symm⟩
  · rintro ⟨r, hmem, hwaits, hid, rfl⟩
    obtain ⟨e, he, hload⟩ :=
      exists_mem_of_forall₂ h ((mem_selected_waiting hne).mpr ⟨hmem, hwaits, hid⟩)
    exact ⟨e, he, (ExecutionRow.ids_of_load hload).2.1⟩

theorem run_runningFunnels (hs : Steady s) (hlead : w.database.Admits s.policy.dedupe leadId) :
    ∃ running o, (runningFunnels (.own leadId)).run s w = (.ok running, { w with outside := o }) ∧
      ∀ id, running.contains id = (s.policy.dedupe && w.database.isRunning leadId id) := by
  unfold runningFunnels
  rw [run_bind_ok (run_policy s w)]
  cases hdedupe : s.policy.dedupe with
  | false => exact ⟨[], w.outside, rfl, fun id => rfl⟩
  | true =>
    obtain ⟨es, o, hlist, hloads⟩ := run_listing_of_none (c := .listExecutions) (w := w)
      (Database.selected (some Status.waiting.name) none (some leadId)) ExecutionRow.load
      (hs.none_of (by decide) (by decide) (by decide) _) fun r hr => by
        obtain ⟨hmem, hwaits, hid⟩ := (Database.mem_selected_waiting hlead.ne_empty).mp hr
        exact hlead.load hdedupe r hmem hwaits hid
    refine ⟨es.map (·.funnelId), o, ?_, fun id => ?_⟩
    · rw [if_pos rfl, identified, run_bind_ok (run_ofExcept _ s w),
        listExecutions_waiting_eq hlead.whole, run_bind_ok hlist]
      rfl
    · rw [Bool.true_and, Bool.eq_iff_iff, List.contains_iff_mem]
      exact Database.mem_funnelIds_iff hlead.ne_empty hloads id

variable (trigger texts) in
/-- A trigger starts the funnels that are eligible for the lead. -/
theorem run_triggerFunnels (hw : Ready s w) (hlead : w.database.Admits s.policy.dedupe leadId)
    {fs : List Funnel}
    (hfs : List.Forall₂ (fun r f => FunnelRow.load r = .ok f) w.database.funnelRows fs) :
    ∃ created w', (triggerFunnels trigger (.own leadId) (Context.fields texts) false).run s w
        = (.ok created, w') ∧
      StartsAll s texts (w.database.eligible s.policy.dedupe trigger leadId fs) created
        w w' := by
  have hlist : ∃ o, Store.listFunnels.run s w = (.ok (.own fs), { w with outside := o }) := by
    rw [listFunnels_eq]
    exact run_listing_of_loads Database.funnelRows FunnelRow.load
      (hw.steady.none_of (by decide) (by decide) (by decide) _) hfs
  obtain ⟨o, hlist⟩ := hlist
  generalize hlistening : (fs.filter fun f => f.isActive && f.trigger == trigger) = listening
  have hall : ∀ f ∈ listening, f.Validated ∧ Text.isWhole f.id = true := by
    rw [← hlistening]
    exact fun f hf => hw.funnels_good hfs f (List.mem_of_mem_filter hf)
  rw [Database.eligible_eq, hlistening]
  unfold triggerFunnels
  rw [run_bind_ok hlist, Reply.records_own, run_bind_ok (run_ofExcept _ s _)]
  dsimp only
  rw [hlistening]
  by_cases hempty : listening.isEmpty = true
  · rw [if_pos hempty, List.isEmpty_iff.mp hempty]
    exact ⟨[], _, rfl, .nothing rfl rfl rfl⟩
  · obtain ⟨running, o₂, hrunning, hknown⟩ :=
      run_runningFunnels (w := { w with outside := o }) hw.steady hlead
    have hlooked : StartsAll s texts [] [] w { w with outside := o₂ } :=
      .nothing rfl rfl rfl
    obtain ⟨es, w', hcollect, hstarts⟩ :=
      run_collect_startFunnel trigger texts running hlead.whole hall (hw.after hlooked)
    refine ⟨es.filterMap id, w', ?_, ?_⟩
    · rw [if_neg hempty, run_bind_ok hrunning, run_bind_ok (run_clock s _), run_bind_ok hcollect]
      simp only [Bool.and_false, Bool.false_eq_true, if_false]
      rfl
    · simp only [hknown] at hstarts
      exact hlooked.append hstarts

/-! ## All leads -/

section
variable {news : List ExecutionRow}

/-- New rows of one lead do not count against another one. -/
theorem Adds.isRunning_eq (h : Adds news db db') (hnews : ∀ r ∈ news, r.leadId ≠ leadId)
    (funnelId : String) : db'.isRunning leadId funnelId = db.isRunning leadId funnelId := by
  have hnone : news.any (fun r =>
      r.status == Status.waiting.name && r.leadId == leadId && r.funnelId == funnelId) = false := by
    rw [List.any_eq_false]
    intro r hr
    simp [hnews r hr]
  rw [h.database_eq, Database.isRunning, List.any_append, hnone, Bool.or_false,
    Database.isRunning]

theorem Adds.eligible_eq (h : Adds news db db') (hnews : ∀ r ∈ news, r.leadId ≠ leadId)
    {dedupe : Bool} (fs : List Funnel) :
    db'.eligible dedupe trigger leadId fs = db.eligible dedupe trigger leadId fs := by
  simp only [Database.eligible, Funnel.isEligible, h.isRunning_eq hnews]

theorem Adds.admits (h : Adds news db db') (hnews : ∀ r ∈ news, r.leadId ≠ leadId) {dedupe : Bool}
    (hlead : db.Admits dedupe leadId) : db'.Admits dedupe leadId := by
  refine ⟨hlead.ne_empty, hlead.whole, fun hdedupe r hr hwaits hid => ?_⟩
  rw [h.database_eq] at hr
  rcases List.mem_append.mp hr with hr | hr
  · exact hlead.load hdedupe r hr hwaits hid
  · exact absurd hid (hnews r hr)

end

theorem StartsAll.leadId_eq {dedupe : Bool} {fs : List Funnel}
    {created : List Execution}
    (h : StartsAll s texts (db.eligible dedupe trigger leadId fs) created w w') :
    ∀ r ∈ created.map (Store.rowOf · s.databaseClock), r.leadId = leadId := by
  intro r hr
  obtain ⟨e, he, rfl⟩ := List.mem_map.mp hr
  obtain ⟨p, hp, hstarts⟩ := exists_mem_of_forall₂ h.starts.flip he
  obtain ⟨f, -, rfl⟩ := List.mem_map.mp hp
  exact hstarts.leadId_eq

variable (trigger texts) in
/-- Lead by lead, a trigger starts what was eligible for the lead before the first one. -/
theorem run_collect_triggerFunnels {leads : List Lead} {fs : List Funnel} (hw : Ready s w)
    (hfs : List.Forall₂ (fun r f => FunnelRow.load r = .ok f) w.database.funnelRows fs)
    (hnodup : (leads.map (·.id)).Nodup)
    (hadmits : ∀ l ∈ leads, w.database.Admits s.policy.dedupe l.id) :
    ∃ createds w', (collect (fun l : Reply Lead =>
        triggerFunnels trigger (l.map (·.id)) (Context.fields texts) false)
        (leads.map .own)).run s w = (.ok createds, w') ∧
      StartsAll s texts
        (leads.flatMap fun l => w.database.eligible s.policy.dedupe trigger l.id fs)
        createds.flatten w w' := by
  induction leads generalizing w with
  | nil => exact ⟨[], w, rfl, .nothing rfl rfl rfl⟩
  | cons l leads ih =>
    obtain ⟨hnew, hnodup⟩ := List.nodup_cons.mp hnodup
    obtain ⟨created, w₁, hfirst, hstarts₁⟩ :=
      run_triggerFunnels trigger texts hw (hadmits l List.mem_cons_self) hfs
    -- The rows of this lead are not those of the leads to come.
    have hothers : ∀ l' ∈ leads, ∀ r ∈ created.map (Store.rowOf · s.databaseClock),
        r.leadId ≠ l'.id := by
      intro l' hl' r hr hid
      rw [hstarts₁.leadId_eq r hr] at hid
      exact hnew (List.mem_map.mpr ⟨l', hl', hid.symm⟩)
    have hfs₁ : List.Forall₂ (fun r f => FunnelRow.load r = .ok f) w₁.database.funnelRows fs := by
      rw [hstarts₁.adds.database_eq]
      exact hfs
    obtain ⟨createds, w', hrun, hstarts⟩ := ih (hw.after hstarts₁) hfs₁ hnodup fun l' hl' =>
      hstarts₁.adds.admits (hothers l' hl') (hadmits l' (List.mem_cons_of_mem l hl'))
    refine ⟨created :: createds, w', ?_, ?_⟩
    · rw [List.map_cons]
      unfold collect
      exact (run_bind_ok hfirst).trans (by rw [run_bind_ok hrun]; rfl)
    · rw [List.flatMap_congr fun l' hl' => hstarts₁.adds.eligible_eq (hothers l' hl') fs] at hstarts
      exact hstarts₁.append hstarts

/-- The rows of the leads that are active, in the order in which they are listed. -/
def Database.activeRows (db : Database) : List LeadRow :=
  inOrder (·.createdAt) (db.leads.filter fun r => r.status == Lead.active)

theorem Database.mem_activeRows {r : LeadRow} :
    r ∈ db.activeRows ↔ r ∈ db.leads ∧ r.status = Lead.active := by
  rw [activeRows, mem_inOrder, List.mem_filter, beq_iff_eq]

theorem listActive_eq :
    (Store.listLeads (some Lead.active) : Action σ _)
      = guarded .listLeads (listing Database.activeRows LeadRow.load) := by
  have hfilter : (fun r : LeadRow => Lead.active == "" || Lead.active == r.status)
      = fun r => r.status == Lead.active := by
    funext r
    have hne : (Lead.active == "") = false := by decide
    rw [hne, Bool.false_or, Bool.beq_comm]
  have hactive : Column.optional (some Lead.active) = .ok (some Lead.active) := by rfl
  unfold Store.listLeads
  dsimp only
  rw [hfilter, hactive]
  rfl

/-- The leads that are active can be read and told apart, and each of them can be searched for. -/
structure Database.AdmitsActive (db : Database) (dedupe : Bool) : Prop where
  load : ∀ r ∈ db.leads, r.status = Lead.active → ∃ l, LeadRow.load r = .ok l
  nodup : (db.leads.map (·.id)).Nodup
  admits : ∀ r ∈ db.leads, r.status = Lead.active → db.Admits dedupe r.id

theorem Database.AdmitsActive.nodup_active {dedupe : Bool} (h : db.AdmitsActive dedupe) :
    (db.activeRows.map (·.id)).Nodup := by
  unfold activeRows
  rw [((inOrder_perm _ _).map _).nodup_iff]
  exact h.nodup.sublist (List.filter_sublist.map _)

/-- Drives what is due if anything was created. -/
def driveCreated (created : List Execution) : Action σ (List Execution) := do
  if !created.isEmpty then
    let _ ← processNow
  return created

variable (trigger texts) in
/-- A broadcast starts what is eligible for each active lead, and then drives what is due. -/
theorem run_broadcast {fs : List Funnel} (hw : Ready s w)
    (hfs : List.Forall₂ (fun r f => FunnelRow.load r = .ok f) w.database.funnelRows fs)
    (hactive : w.database.AdmitsActive s.policy.dedupe) :
    ∃ leads created w',
      List.Forall₂ (fun r l => LeadRow.load r = .ok l) w.database.activeRows leads ∧
      (broadcast trigger (Context.fields texts)).run s w = (driveCreated created).run s w' ∧
      StartsAll s texts
        (leads.flatMap fun l => w.database.eligible s.policy.dedupe trigger l.id fs) created
        w w' := by
  obtain ⟨leads, o, hlist, hleads⟩ := run_listing_of_none (c := .listLeads) (w := w)
    Database.activeRows LeadRow.load (hw.steady.none_of (by decide) (by decide) (by decide) _)
    fun r hr => by
      obtain ⟨hmem, hstatus⟩ := Database.mem_activeRows.mp hr
      exact hactive.load r hmem hstatus
  have hlisted : StartsAll s texts [] [] w { w with outside := o } := .nothing rfl rfl rfl
  have hnodup : (leads.map (·.id)).Nodup := by
    rw [← map_eq_map_of_forall₂ hleads fun _ _ hload => (LeadRow.id_of_load hload).symm]
    exact hactive.nodup_active
  have hadmits : ∀ l ∈ leads, w.database.Admits s.policy.dedupe l.id := by
    intro l hl
    obtain ⟨r, hr, hload⟩ := exists_mem_of_forall₂ hleads.flip hl
    obtain ⟨hmem, hstatus⟩ := Database.mem_activeRows.mp hr
    rw [LeadRow.id_of_load hload]
    exact hactive.admits r hmem hstatus
  obtain ⟨createds, w₂, hcollect, hstarts⟩ :=
    run_collect_triggerFunnels trigger texts (hw.after hlisted) hfs hnodup hadmits
  -- What follows the loop, before anything is driven, is only a note.
  obtain ⟨w₃, hrun, hnoted⟩ : ∃ w₃, (broadcast trigger (Context.fields texts)).run s w
      = (driveCreated createds.flatten).run s w₃ ∧ StartsAll s texts [] [] w₂ w₃ := by
    unfold broadcast
    rw [listActive_eq, run_bind_ok hlist, Reply.members, run_bind_ok (run_ofExcept _ s _),
      run_bind_ok hcollect]
    exact ⟨_, rfl, .nothing rfl rfl rfl⟩
  refine ⟨leads, createds.flatten, w₃, hleads, hrun, ?_⟩
  have h := (hlisted.append hstarts).append hnoted
  simp only [List.append_nil, List.nil_append] at h
  exact h

/-- A trigger starts each eligible funnel for its lead, and a broadcast starts it for each active
lead before it drives what is due. -/
theorem triggers_exact (hw : Ready s w) (trigger : String) (texts : Context) :
    ∃ fs, List.Forall₂ (fun r f => FunnelRow.load r = .ok f) w.database.funnelRows fs ∧
      (∀ leadId, w.database.Admits s.policy.dedupe leadId → ∃ created w',
        (triggerFunnels trigger (.own leadId) (Context.fields texts) false).run s w
          = (.ok created, w') ∧
        StartsAll s texts (w.database.eligible s.policy.dedupe trigger leadId fs) created
          w w') ∧
      (w.database.AdmitsActive s.policy.dedupe → ∃ leads created w',
        List.Forall₂ (fun r l => LeadRow.load r = .ok l) w.database.activeRows leads ∧
        (broadcast trigger (Context.fields texts)).run s w = (driveCreated created).run s w' ∧
        StartsAll s texts
          (leads.flatMap fun l => w.database.eligible s.policy.dedupe trigger l.id fs) created
          w w') := by
  obtain ⟨fs, hfs⟩ : ∃ fs, List.Forall₂ (fun r f => FunnelRow.load r = .ok f)
      w.database.funnelRows fs :=
    exists_forall₂ fun r hr => hw.load_funnels r (mem_inOrder.mp hr)
  refine ⟨fs, hfs, fun leadId hlead => run_triggerFunnels trigger texts hw hlead hfs,
    fun hactive => run_broadcast trigger texts hw hfs hactive⟩

namespace Newsletter

/-- A second funnel that listens for the same trigger. -/
def sequel : Funnel := { funnel with id := "funnel-2" }

/-- A lead that no longer takes part, and one that does. -/
def otherLeads : List LeadRow :=
  [{ leadRow with id := "lead-2", email := "bob@example.com", status := "paused" },
   { leadRow with id := "lead-3", email := "eve@example.com" }]

/-- The first lead runs the first of two funnels. -/
def busy : World Unit :=
  { World.fresh () with
    database := ⟨[funnel.toRow 0, sequel.toRow 0], [row], leadRow :: otherLeads, []⟩
    issued := { executions := 1, leads := 3 } }

theorem busy_ready : Ready surroundings busy where
  steady := Surroundings.calm_steady
  clock_inRange := by decide
  databaseClock_inRange := by decide
  unissued := by
    intro k hk r hr heq
    obtain rfl := List.mem_singleton.mp hr
    have hone : row.id = Naming.counted.name .execution 1 := by decide
    obtain rfl : 1 = k := Naming.counted.distinct _ _ _ (hone.symm.trans heq)
    exact absurd hk (by decide)
  load_funnels := by
    intro r hr
    simp only [busy, List.mem_cons, List.not_mem_nil, or_false] at hr
    rcases hr with rfl | rfl
    · exact ⟨funnel, rfl⟩
    · exact ⟨sequel, rfl⟩
  whole_funnels := by decide

theorem busy_admits {leadId : String} (hne : leadId ≠ "") (hwhole : Text.isWhole leadId = true)
    (dedupe : Bool) : busy.database.Admits dedupe leadId := by
  refine ⟨hne, hwhole, fun _ r hr _ _ => ?_⟩
  obtain rfl := List.mem_singleton.mp hr
  exact ⟨execution, load_row⟩

theorem busy_admitsActive (dedupe : Bool) : busy.database.AdmitsActive dedupe where
  load := by
    intro r hr _
    simp only [busy, otherLeads, List.mem_cons, List.not_mem_nil, or_false] at hr
    rcases hr with rfl | rfl | rfl <;> exact ⟨_, rfl⟩
  nodup := by decide
  admits := by
    intro r hr _
    refine busy_admits ?_ ?_ dedupe
    · revert r
      decide
    · revert r
      decide

/-- What the executions are to be told of. -/
def posted : Context := [("post_title", "Launch")]

/-- A lead runs one of two funnels, and another lead none. -/
theorem sequel_started :
    (Ready surroundings busy ∧ busy.database.Admits surroundings.policy.dedupe lead.id ∧
      busy.database.AdmitsActive surroundings.policy.dedupe) ∧
    ∃ fs, List.Forall₂ (fun r f => FunnelRow.load r = .ok f) busy.database.funnelRows fs ∧
      (∃ created w',
        (triggerFunnels Trigger.leadSubscribed (.own lead.id) (Context.fields posted) false).run
          surroundings busy = (.ok created, w') ∧
        StartsAll surroundings posted
          (busy.database.eligible true Trigger.leadSubscribed lead.id fs) created busy w') ∧
      ∃ leads created w',
        List.Forall₂ (fun r l => LeadRow.load r = .ok l) busy.database.activeRows leads ∧
        (broadcast Trigger.leadSubscribed (Context.fields posted)).run surroundings busy
          = (driveCreated created).run surroundings w' ∧
        StartsAll surroundings posted
          (leads.flatMap fun l => busy.database.eligible true Trigger.leadSubscribed l.id fs)
          created busy w' := by
  have hlead : busy.database.Admits true lead.id := busy_admits (by decide) (by decide) true
  obtain ⟨fs, hfs, htrigger, hbroadcast⟩ := triggers_exact busy_ready Trigger.leadSubscribed posted
  exact ⟨⟨busy_ready, hlead, busy_admitsActive true⟩, fs, hfs, htrigger lead.id hlead,
    hbroadcast (busy_admitsActive true)⟩

/-- The pairs are those of the first lead with the second funnel, and of the third one with both. -/
example : [lead.id, "lead-3"].flatMap (fun id =>
    (busy.database.eligible true Trigger.leadSubscribed id [funnel, sequel]).map
      fun p => (p.1, p.2.id))
      = [("lead-1", "funnel-2"), ("lead-3", "funnel-1"), ("lead-3", "funnel-2")] := by
  decide

/-- Only the second funnel is there. -/
def continued : World Unit := { busy with database := ⟨[sequel.toRow 0], [row], [leadRow], []⟩ }

/-- The history of the execution is no list of objects. -/
def garbled : World Unit :=
  { continued with
    database := { continued.database with executions := [{ row with history := .arr [.int 1] }] } }

/-- Half of a surrogate pair, which no column can hold. -/
def brokenId : String := String.singleton (Text.ofHalf 0xd800)

/-- A clock that is an hour ahead of UTC, at the start of the calendar. -/
def beforeTime : Surroundings Unit := .calm (.ahead 0 Calendar.hour) (.usual .utc 2)

/-- A funnel that is eligible is not started if what the lead is running cannot be read, if its
identifier cannot be searched for, or if the clock shows no time that UTC has. -/
theorem eligible_not_started :
    (sequel.isEligible garbled.database true Trigger.leadSubscribed lead.id = true ∧
      ((triggerFunnels Trigger.leadSubscribed (.own lead.id) [] false).run surroundings
        garbled).2.database.executions.map (·.id) = ["exec-1"]) ∧
    (sequel.isEligible continued.database true Trigger.leadSubscribed brokenId = true ∧
      ((triggerFunnels Trigger.leadSubscribed (.own brokenId) [] false).run surroundings
        continued).2.database.executions.map (·.id) = ["exec-1"]) ∧
    sequel.isEligible continued.database true Trigger.leadSubscribed lead.id = true ∧
      ((triggerFunnels Trigger.leadSubscribed (.own lead.id) [] false).run beforeTime
        continued).2.database.executions.map (·.id) = ["exec-1"] := by
  decide +kernel

end Newsletter

end Nurture
