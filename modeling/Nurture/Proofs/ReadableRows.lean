import Nurture.Proofs.FunnelTable
import Nurture.Proofs.LeadTable
import Nurture.Proofs.LowerCase
import Nurture.Proofs.PassReport

/-!
  Rows that can be read

  A row that is read is checked again, and one row that fails the check makes the listing of its
  table fail. Calls that return leave no such row (`World.Reached.readable`), as long as updates of
  executions give a status by its name and a history as a list of objects, and tags are texts:
  these values are not checked when they are written (`Unchecked.listing_fails`). Funnels and leads
  are checked by the calls themselves.
-/

namespace Nurture

open Validation Validation.Checked Nurture.Action

variable {σ : Type} {s : Surroundings σ} {w w' : World σ} {db : Database}

/-! ## Calls -/

/-- The patch gives a status, if any, by its name or as null, which no row takes, and a history, if
any, as a list of objects or as nothing. -/
structure ExecutionPatch.IsReadable (p : ExecutionPatch) : Prop where
  status : ∀ v, p.get? "status" = some v →
    v = .data .null ∨ ∃ st : Status, v = .data (.str st.name)
  history : ∀ j, p.get? "history" = some (.data j) →
    j.isGiven = false ∨ ∃ history, j = Execution.historyJson history

/-- Calls of the store and of the directory that change tables. -/
inductive TableCall where
  | saveFunnel (draft : Draft Funnel)
  | deleteFunnel (id : String)
  | createExecution (draft : Draft Execution)
  | updateExecution (id : String) (p : ExecutionPatch)
  | saveTemplate (draft : Draft Template)
  | subscribe (form : SubscriptionForm)
  | updateLead (id : String) (fields : Json.Fields)
  | updateStage (id : String) (stage : Json)
  | addTag (id : String) (tag : Json)
  | deleteLead (id : String)

namespace TableCall

/-- The call, whatever it answers. -/
def act : TableCall → Action σ Unit
  | saveFunnel draft => (fun _ => ()) <$> Store.saveFunnel draft
  | deleteFunnel id => (fun _ => ()) <$> Store.deleteFunnel id
  | createExecution draft => (fun _ => ()) <$> Store.createExecution draft
  | updateExecution id p => (fun _ => ()) <$> Store.updateExecution id p
  | saveTemplate draft => (fun _ => ()) <$> Store.saveTemplate draft
  | subscribe form => (fun _ => ()) <$> Store.subscribe form
  | updateLead id fields => (fun _ => ()) <$> Store.updateLead id fields
  | updateStage id stage => (fun _ => ()) <$> Store.updateStage id stage
  | addTag id tag => (fun _ => ()) <$> Store.addTag id tag
  | deleteLead id => (fun _ => ()) <$> Store.deleteLead id

/-- A funnel that is saved has passed its check, and values that the call does not check can be
read back. -/
def IsReadable : TableCall → Prop
  | saveFunnel draft => ∃ j, Funnel.check j = good draft
  | updateExecution _ p => p.IsReadable
  | addTag _ tag => ∃ t, tag = .str t
  | _ => True

end TableCall

/-- A funnel that is saved is such as its check lets through, and tags are texts. -/
def Upkeep.IsReadable : Upkeep → Prop
  | saveFunnel draft => ∀ id, (draft.withId id).Proper
  | updateLead _ fields => ∀ j, fields.get? "tags" = some j → ∃ ts, j = .ofTexts ts
  | addTag _ tag => ∃ t, tag = .str t
  | _ => True

/-- Worlds that calls which return lead to from empty tables. -/
inductive World.Reached : World σ → Prop
  | start {w : World σ} (h : w.database = .empty) : w.Reached
  | call {w : World σ} {c : TableCall} (s : Surroundings σ) (h : w.Reached) (hc : c.IsReadable)
      (hok : (c.act.run s w).1 = .ok ()) : (c.act.run s w).2.Reached

/-! ## What a call makes of the rows -/

/-- A row of executions that can be read. -/
def ExecutionRow.IsReadable (r : ExecutionRow) : Prop :=
  (∃ st : Status, r.status = st.name) ∧ ∃ history, r.Holds history

/-- All rows can be read. -/
structure Database.Readable (db : Database) : Prop where
  funnels : ∀ r ∈ db.funnels, ∃ f, r.Holds f
  executions : ∀ r ∈ db.executions, r.IsReadable
  leads : ∀ r ∈ db.leads, r.Sound

namespace ExecutionRow

variable {r r' : ExecutionRow} {p : ExecutionPatch}

theorem isReadable_rowOf (e : Execution) (now : Calendar.Stamp) :
    (Store.rowOf e now).IsReadable := ⟨⟨e.status, rfl⟩, e.history, .inl rfl⟩

theorem IsReadable.load (h : r.IsReadable) : ∃ e, r.load = .ok e := by
  obtain ⟨⟨status, hstatus⟩, history, hholds⟩ := h
  exact ⟨_, load_eq_ok_iff.mpr ⟨status, history, hstatus, hholds, rfl⟩⟩

/-- A patch with readable values keeps a row readable. -/
theorem IsReadable.patch (h : r.IsReadable) (hp : p.IsReadable) {now : Calendar.Stamp}
    (hrow : r.patch p now = .ok r') : r'.IsReadable := by
  obtain ⟨time, history, node, status, -, hhistory, -, hstatus, -, rfl⟩ := patch_eq_ok_iff.mp hrow
  refine ⟨?_, ?_⟩
  · unfold columnOr at hstatus
    cases hget : p.get? "status" with
    | none =>
      rw [hget] at hstatus
      obtain rfl := Option.some.inj (Except.ok.inj hstatus)
      exact h.1
    | some v =>
      rw [hget] at hstatus
      rcases hp.status v hget with rfl | ⟨st, rfl⟩
      · -- the row must have a status
        have hnone := hstatus.symm.trans (Column.given?_null _)
        cases hnone
      · exact ⟨st, Option.some.inj (Column.eq_of_given?_str hstatus)⟩
  · unfold columnOr at hhistory
    cases hget : p.get? "history" with
    | none =>
      rw [hget] at hhistory
      obtain rfl := Except.ok.inj hhistory
      exact h.2
    | some v =>
      rw [hget] at hhistory
      cases v with
      | time t => cases hhistory
      | data j =>
        obtain rfl := Except.ok.inj hhistory
        unfold keptData
        split
        · exact h.2
        · rcases hp.history j hget with hj | ⟨given, rfl⟩
          · exact ⟨[], .inr ⟨hj, rfl⟩⟩
          · exact ⟨given, .inl rfl⟩

end ExecutionRow

namespace LeadRow

variable {r r' : LeadRow}

theorem Sound.of_subscription {form : SubscriptionForm} {sub : Subscription} {id : String}
    {now : Calendar.Stamp} (hform : form.check = good sub)
    (hrow : LeadRow.ofSubscription sub id now = .ok r) : r.Sound := by
  obtain ⟨-, -, -, -, rfl⟩ := LeadRow.ofSubscription_eq_ok_iff.mp hrow
  obtain ⟨email, -, hwhole, -, hne, hemail⟩ :=
    Lead.checkEmail_eq_good_iff.mp (SubscriptionForm.check_eq_good_iff.mp hform).1
  have hnormal : Lead.normalEmail sub.email = sub.email := by
    rw [hemail, Lead.normalEmail_normalEmail]
  have hwhole : Text.isWhole sub.email = true := by
    rw [hemail]
    exact Lead.isWhole_normalEmail hwhole
  have hne : sub.email ≠ "" := by
    rw [hemail]
    exact hne
  exact ⟨hnormal, hwhole, hne, List.forall_mem_nil _⟩

theorem Sound.revised {fields : Json.Fields} {now : Calendar.Stamp} (hr : r.Sound)
    (hfields : ∀ j, fields.get? "tags" = some j → ∃ ts, j = .ofTexts ts)
    (h : Store.Revised fields now r r') : r'.Sound := by
  obtain ⟨tags, htags, hrow⟩ := h
  obtain ⟨name, phone, status, stage, source, -, -, -, -, -, rfl⟩ := LeadRow.eq_of_update hrow
  exact { hr with
    texts := LeadRow.keptTags_texts hr.texts (LeadRow.newTags_texts hr.texts hfields htags) }

theorem Sound.accepted {fields : Json.Fields} {now : Calendar.Stamp} (hr : r.Sound)
    (h : Store.Accepted fields now r r') : r'.Sound := by
  obtain ⟨tags, l, -, hrow, hlead⟩ := h
  obtain ⟨name, phone, status, stage, source, -, -, -, -, -, rfl⟩ := LeadRow.eq_of_update hrow
  have htexts : ∀ j ∈ tags, ∃ t, j = .str t := by
    obtain ⟨draft, hdraft, -⟩ := map_eq_ok_iff.mp hlead
    obtain ⟨_, _, _, _, _, texts, _, _, _, -, -, -, -, -, htags, -⟩ :=
      Lead.checkFields_eq_good_iff.mp (toExcept_eq_ok_iff.mp (mapError_eq_ok_iff.mp hdraft))
    rcases defaulted_eq_good_iff.mp htags with ⟨j, hj, hcheck⟩ | ⟨hnone, -⟩
    · obtain rfl : .arr tags = j := Option.some.inj hj
      intro j hj
      obtain ⟨t, -, ht⟩ := exists_mem_of_forall₂ (listOf_text_eq_good_iff.mp hcheck) hj
      exact ⟨t, ht⟩
    · cases hnone
  exact { hr with texts := LeadRow.keptTags_texts hr.texts htexts }

end LeadRow

/-! ## What a call makes of the tables -/

namespace Database.Readable

variable {f : Funnel} {now : Calendar.Stamp}

theorem empty : Database.empty.Readable :=
  ⟨List.forall_mem_nil _, List.forall_mem_nil _, List.forall_mem_nil _⟩

theorem putFunnel (h : db.Readable) {r : FunnelRow} (hr : r.Holds f) :
    (db.putFunnel r).Readable := by
  refine ⟨fun r' hr' => ?_, h.executions, h.leads⟩
  rcases mem_putRow_iff.mp hr' with rfl | ⟨hr', -⟩
  · exact ⟨f, hr⟩
  · exact h.funnels r' hr'

theorem keeping (h : db.Readable) (hf : f.Proper) {db' : Database}
    (hkept : db.keeping f now = .ok db') : db'.Readable := by
  obtain ⟨-, r, -, hholds, ⟨-, rfl⟩ | rfl⟩ := Database.keeping_cases hf h.funnels hkept
  · exact h
  · exact h.putFunnel hholds

theorem dropFunnel (h : db.Readable) (id : String) : (db.dropFunnel id).Readable :=
  ⟨fun r hr => h.funnels r (List.mem_of_mem_filter hr), h.executions, h.leads⟩

theorem putExecution (h : db.Readable) {r : ExecutionRow} (hr : r.IsReadable) :
    (db.putExecution r).Readable := by
  refine ⟨h.funnels, fun r' hr' => ?_, h.leads⟩
  rcases mem_putRow_iff.mp hr' with rfl | ⟨hr', -⟩
  · exact hr
  · exact h.executions r' hr'

theorem addExecution (h : db.Readable) {draft : Draft Execution} {db' : Database}
    (hadded : Store.Added now draft db db') : db'.Readable := by
  cases hadded with
  | intro =>
    refine ⟨h.funnels, fun r hr => ?_, h.leads⟩
    rcases List.mem_append.mp hr with hr | hr
    · exact h.executions r hr
    · obtain rfl := List.mem_singleton.mp hr
      exact ExecutionRow.isReadable_rowOf _ _

theorem putLead (h : db.Readable) {r : LeadRow} (hr : r.Sound) : (db.putLead r).Readable := by
  refine ⟨h.funnels, h.executions, fun r' hr' => ?_⟩
  rcases mem_putRow_iff.mp hr' with rfl | ⟨hr', -⟩
  · exact hr
  · exact h.leads r' hr'

theorem addLead (h : db.Readable) {r : LeadRow} (hr : r.Sound) : (db.addLead r).Readable := by
  refine ⟨h.funnels, h.executions, fun r' hr' => ?_⟩
  rcases List.mem_append.mp hr' with hr' | hr'
  · exact h.leads r' hr'
  · exact List.mem_singleton.mp hr' ▸ hr

theorem edited (h : db.Readable) {edits : LeadRow → LeadRow → Prop} {db' : Database}
    {issued issued' : Issued} (hedited : Store.Edited edits db issued db' issued')
    (hsound : ∀ r r', r.Sound → edits r r' → r'.Sound) : db'.Readable := by
  cases hedited with
  | same => exact h
  | put hr hedit _ => exact h.putLead (hsound _ _ (h.leads _ hr) hedit)

theorem dropLead (h : db.Readable) (id : String) : (Store.dropLead db id).Readable :=
  ⟨h.funnels, h.executions, fun r hr => h.leads r (List.mem_of_mem_filter hr)⟩

theorem loadable (h : db.Readable) : db.Loadable where
  executions r hr _ := (h.executions r hr).load
  funnels := by
    intro r hr
    obtain ⟨f, hf⟩ := h.funnels r hr
    obtain ⟨g, hg, -⟩ := hf.load
    exact ⟨g, hg⟩
  leads := by
    intro r hr
    obtain ⟨tags, hl⟩ := (h.leads r hr).load
    exact ⟨_, hl⟩

end Database.Readable

/-! ## Calls keep rows readable -/

/-- Whether rows stay readable depends on the tables only. -/
def Database.Keeps (db db' : Database) : Prop := db.Readable → db'.Readable

instance : Std.Refl Database.Keeps := ⟨fun _ h => h⟩

instance : IsTrans Database Database.Keeps := ⟨fun _ _ _ h h' => h' ∘ h⟩

theorem Store.saveTemplate_keeps (draft : Draft Template) :
    Takes (Tables Database.Keeps) s (saveTemplate draft) := by
  refine Takes.guarded' (newId_takes (fun _ => Lenient.of_same rfl rfl) fun id => ?_)
  refine Takes.bind' (templateRow?_still _).ofStill fun held => ?_
  refine Takes.bind' Takes.databaseClock' fun now => ?_
  refine Takes.bind' (Takes.ofExcept' _) fun row => ?_
  refine Takes.bind' (Takes.modify' fun w h => ⟨h.funnels, h.executions, h.leads⟩) fun _ => ?_
  exact Takes.bind' (Takes.note' _) fun _ => Takes.pure' _

/-- Whatever comes in its way, such a call keeps all rows readable. -/
theorem Upkeep.keeps {c : Upkeep} (hc : c.IsReadable) (h : w.database.Readable) :
    (c.act.run s w).2.database.Readable := by
  cases c with
  | saveFunnel draft =>
    rw [act, run_map]
    rcases Store.saveFunnel_cases draft s w with ⟨db', hkept, -, hdb⟩ | ⟨-, hdb⟩
    · rw [hdb]
      exact h.keeping (hc _) hkept
    · rw [hdb]
      exact h
  | deleteFunnel id =>
    rw [act, run_map]
    rcases Store.deleteFunnel_cases id s w with ⟨-, hdb⟩ | ⟨-, hdb⟩
    · rw [hdb]
      exact h.dropFunnel id
    · rw [hdb]
      exact h
  | saveTemplate draft =>
    rw [act, run_map]
    exact Store.saveTemplate_keeps draft w h
  | subscribe form =>
    rw [act, run_map]
    rcases Store.subscribe_leaves form s w with hdb | ⟨sub, hform, ⟨id, r, hrow, hdb⟩ |
      ⟨held, hheld, hdb⟩⟩
    · rw [hdb]
      exact h
    · rw [hdb]
      exact h.addLead (.of_subscription hform hrow)
    · rw [hdb]
      exact h.putLead { h.leads held hheld with }
  | updateLead id fields =>
    rw [act, run_map]
    exact h.edited (Store.updateLead_cases id fields w) fun r r' hr => hr.revised hc
  | updateStage id stage =>
    rw [act, run_map]
    exact h.edited (Store.updateStage_cases id stage w) fun r r' hr => hr.revised nofun
  | addTag id tag =>
    obtain ⟨t, rfl⟩ := hc
    rw [act, run_map]
    refine h.edited (Store.addTag_cases id (.str t) w) fun r r' hr hr' => ?_
    obtain ⟨-, rfl⟩ := hr'
    exact { hr with texts := List.forall_mem_append.mpr ⟨hr.texts, by simp⟩ }
  | deleteLead id =>
    rw [act, run_map]
    rcases (Store.deleteLead_cases id s w).1 with hdb | hdb
    · rw [hdb]
      exact h
    · rw [hdb]
      exact h.dropLead id

/-- A call that returns keeps all rows readable. -/
theorem TableCall.keeps {c : TableCall} (hc : c.IsReadable) (h : w.database.Readable)
    (hok : (c.act.run s w).1 = .ok ()) : (c.act.run s w).2.database.Readable := by
  cases c with
  | saveFunnel draft =>
    obtain ⟨j, hj⟩ := hc
    exact Upkeep.keeps (c := .saveFunnel draft) (fun id => (Funnel.proper_of_check hj id).2) h
  | deleteFunnel id => exact Upkeep.keeps (c := .deleteFunnel id) trivial h
  | createExecution draft =>
    rw [act, run_map]
    rcases (Store.createExecution_cases (s := s) draft w).2 with hdb | hadded
    · rw [hdb]
      exact h
    · exact h.addExecution hadded
  | updateExecution id p =>
    rw [act, run_map]
    rcases Store.updateExecution_leaves id p s w with hdb | ⟨r, hr, r', hpatch, hdb⟩
    · rw [hdb]
      exact h
    · rw [hdb]
      exact h.putExecution ((h.executions r hr).patch hc hpatch)
  | saveTemplate draft => exact Upkeep.keeps (c := .saveTemplate draft) trivial h
  | subscribe form => exact Upkeep.keeps (c := .subscribe form) trivial h
  | updateLead id fields =>
    rw [act, run_map] at hok ⊢
    obtain ⟨reply, hreply, -⟩ := map_eq_ok_iff.mp hok
    exact h.edited (Store.updateLead_returned hreply) fun r r' hr => hr.accepted
  | updateStage id stage =>
    rw [act, run_map] at hok ⊢
    obtain ⟨reply, hreply, -⟩ := map_eq_ok_iff.mp hok
    exact h.edited (Store.updateStage_returned hreply) fun r r' hr => hr.accepted
  | addTag id tag => exact Upkeep.keeps (c := .addTag id tag) hc h
  | deleteLead id => exact Upkeep.keeps (c := .deleteLead id) trivial h

/-- In every world that calls lead to, all rows can be read. -/
theorem World.Reached.readable (h : w.Reached) : w.database.Readable := by
  induction h with
  | start h => exact h ▸ .empty
  | call s _ hc hok ih => exact TableCall.keeps hc ih hok

/-! ## Listings -/

theorem listExecutions_eq (status : Option Status) :
    (Store.listExecutions (status.map Status.name) none none : Action σ _)
      = Action.guarded .listExecutions (Action.listing (fun db => inOrder (·.createdAt)
          (db.executions.filter fun r => Store.passes (status.map Status.name) r.status))
        ExecutionRow.load) := by
  have hstatus : Store.checkStatusFilter (status.map Status.name) = .ok () := by
    cases status with
    | none => rfl
    | some st => cases st <;> rfl
  unfold Store.listExecutions
  simp only [Store.passes, Bool.and_true]
  rw [hstatus]
  rfl

theorem listExecutions_raises {r : ExecutionRow} {cause : Failure}
    (hs : (s.interrupt .listExecutions w.outside).1 = none) (hr : r ∈ w.database.executions)
    (hload : r.load = .error cause) :
    ∃ e, ((Store.listExecutions none none none).run s w).1 = .error e := by
  have hlisting := listExecutions_eq (σ := σ) none
  rw [Option.map_none] at hlisting
  rw [hlisting, guarded, relayed_of_none hs, run_map, run_listing]
  dsimp only
  generalize hlisted : inOrder (·.createdAt) (w.database.executions.filter fun r =>
    Store.passes none r.status) = rows
  have hmem : r ∈ rows := hlisted ▸ mem_inOrder.mpr (List.mem_filter.mpr ⟨hr, rfl⟩)
  cases hrows : rows.mapM ExecutionRow.load with
  | error e => exact ⟨e, rfl⟩
  | ok executions =>
    obtain ⟨execution, -, hread⟩ := exists_mem_of_forall₂ (mapM_eq_ok_iff.mp hrows) hmem
    rw [hload] at hread
    cases hread

/-- A listing that nothing comes in the way of returns, and a pass or a trigger can read what it
needs. -/
structure World.Listable (s : Surroundings σ) (w : World σ) : Prop where
  funnels : (s.interrupt .listFunnels w.outside).1 = none →
    ∃ funnels, (Store.listFunnels.run s w).1 = .ok (.own funnels)
  executions : (s.interrupt .listExecutions w.outside).1 = none → ∀ status : Option Status,
    ∃ executions, ((Store.listExecutions (status.map Status.name) none none).run s w).1
      = .ok (.own executions)
  leads : (s.interrupt .listLeads w.outside).1 = none →
    ∃ leads, ((Store.listLeads none).run s w).1 = .ok (.own leads)
  templates : (s.interrupt .listTemplates w.outside).1 = none →
    ∃ templates, (Store.listTemplates.run s w).1 = .ok (.own templates)
  loadable : w.database.Loadable

/-- Whatever calls were made, all tables can be listed if all calls returned and gave no values
that cannot be read. -/
theorem World.Reached.listable (h : w.Reached) (s : Surroundings σ) : w.Listable s := by
  have hreadable := h.readable
  have hloadable := hreadable.loadable
  refine ⟨fun hs => ?_, fun hs status => ?_, fun hs => ?_, fun hs => ?_, hloadable⟩
  · obtain ⟨funnels, o, hrun, -⟩ := run_listing_of_none Database.funnelRows FunnelRow.load hs
      fun r hr => hloadable.funnels r (mem_inOrder.mp hr)
    exact ⟨funnels, congrArg Prod.fst hrun⟩
  · rw [listExecutions_eq]
    obtain ⟨executions, o, hrun, -⟩ := run_listing_of_none (fun db => inOrder (·.createdAt)
        (db.executions.filter fun r => Store.passes (status.map Status.name) r.status))
      ExecutionRow.load hs fun r hr =>
        (hreadable.executions r (List.mem_of_mem_filter (mem_inOrder.mp hr))).load
    exact ⟨executions, congrArg Prod.fst hrun⟩
  · rw [listLeads_none_eq]
    obtain ⟨leads, o, hrun, -⟩ := run_listing_of_none Database.leadRows LeadRow.load hs
      fun r hr => hloadable.leads r (mem_inOrder.mp hr)
    exact ⟨leads, congrArg Prod.fst hrun⟩
  · refine ⟨(inOrder (·.createdAt) w.database.templates).map (·.template), ?_⟩
    rw [Store.listTemplates, guarded, relayed_of_none hs]
    rfl

/-! ## An execution that is patched -/

namespace Unchecked

def surroundings : Surroundings Unit := .calm (.ahead 0 0) (.usual .utc 2)

/-- An execution that has just been started. -/
def execution : Execution where
  id := "x1"
  funnelId := "f1"
  leadId := "l1"
  currentNodeId := some "letter"
  status := .waiting
  nextRunAt := .ahead 0 0
  history := []
  context := []
  createdAt := none

def row : ExecutionRow := Store.rowOf execution (.ahead 0 0)

def creation : TableCall :=
  .createExecution ⟨some "x1", fun id => { execution with id := id }⟩

/-- The world in which the execution was created. -/
def created : World Unit := (creation.act.run surroundings (World.fresh ())).2

theorem creation_ok : (creation.act.run surroundings (World.fresh ())).1 = .ok () := by
  rfl

theorem created_executions : created.database.executions = [row] := by
  rfl

theorem created_keyed : created.database.Keyed := by
  refine ⟨?_, ?_⟩ <;> rw [created_executions]
  · exact List.nodup_singleton _
  · simp only [List.forall_mem_singleton]
    decide

/-- The world in which one column of the execution was patched as well. -/
def patched (f : String × PatchValue) : World Unit :=
  ((TableCall.updateExecution "x1" [f]).act.run surroundings created).2

theorem patched_ok {key : String} {v : PatchValue} (hkey : key ∈ ExecutionPatch.columns)
    {r : ExecutionRow} (hpatch : row.patch [(key, v)] (.ahead 0 0) = .ok r) :
    ((TableCall.updateExecution "x1" [(key, v)]).act.run surroundings created).1 = .ok () ∧
      (patched (key, v)).database.executions = [r] := by
  have hunknown : ExecutionPatch.unknown [(key, v)] = [] := by simp [ExecutionPatch.unknown, hkey]
  have hmem : row ∈ created.database.executions := created_executions ▸ List.mem_singleton_self row
  obtain ⟨w', hrun, -, hdb⟩ :=
    Store.updateExecution_of_none (s := surroundings) created_keyed hmem hunknown rfl hpatch
  have hact : (TableCall.updateExecution "x1" [(key, v)]).act.run surroundings created
      = (.ok (), w') := by
    rw [TableCall.act, run_map, show "x1" = row.id from rfl, hrun]
    rfl
  refine ⟨congrArg Prod.fst hact, ?_⟩
  rw [patched, hact, hdb, Database.change, created_executions, List.map_singleton, if_pos rfl]

/-- An execution is created and patched with a history of one entry, and all tables can be
listed. -/
theorem listable_after_patch :
    (patched ("history", .data (.arr [.obj []]))).Reached ∧
      (patched ("history", .data (.arr [.obj []]))).Listable surroundings := by
  have hpatch : ExecutionPatch.IsReadable [("history", .data (.arr [.obj []]))] := by
    refine ⟨fun v hv => ?_, fun j hj => ?_⟩
    · cases hv
    · obtain rfl := PatchValue.data.inj (Option.some.inj hj)
      exact .inr ⟨[[]], rfl⟩
  have hreached : (patched ("history", .data (.arr [.obj []]))).Reached :=
    .call surroundings (.call surroundings (.start rfl) trivial creation_ok) hpatch
      (patched_ok (by decide) (r := { row with history := .arr [.obj []] }) rfl).1
  exact ⟨hreached, World.Reached.listable hreached surroundings⟩

/-- A history of numbers and a status that does not exist are taken, and then the executions cannot
be listed. -/
theorem listing_fails :
    (creation.act.run surroundings (World.fresh ())).1 = .ok () ∧
    ∀ f ∈ [("history", PatchValue.data (.arr [.int 1])), ("status", .data (.str "done"))],
      ((TableCall.updateExecution "x1" [f]).act.run surroundings created).1 = .ok () ∧
      ∃ e, ((Store.listExecutions none none none).run surroundings (patched f)).1 = .error e := by
  have hfails : ∀ {key : String} {v : PatchValue} {r : ExecutionRow} {cause : Failure},
      key ∈ ExecutionPatch.columns → row.patch [(key, v)] (.ahead 0 0) = .ok r →
      r.load = .error cause →
      ((TableCall.updateExecution "x1" [(key, v)]).act.run surroundings created).1 = .ok () ∧
      ∃ e, ((Store.listExecutions none none none).run surroundings (patched (key, v))).1
        = .error e := by
    intro key v r cause hkey hpatch hload
    obtain ⟨hok, hrows⟩ := patched_ok hkey hpatch
    exact ⟨hok, listExecutions_raises rfl (hrows ▸ List.mem_singleton_self r) hload⟩
  refine ⟨creation_ok, ?_⟩
  rw [List.forall_mem_cons, List.forall_mem_singleton]
  exact ⟨hfails (by decide) (r := { row with history := .arr [.int 1] }) rfl rfl,
    hfails (by decide) (r := { row with status := "done" }) rfl rfl⟩

end Unchecked

end Nurture
