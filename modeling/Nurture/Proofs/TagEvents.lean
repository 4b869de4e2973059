import Nurture.Proofs.FailedCalls
import Nurture.Proofs.PassLog
import Nurture.Proofs.Triggers

/-!
  Tags whose event is lost

  A call to tag a lead writes the tag first and starts the funnels that listen for it afterwards,
  and the tag stays when the rest fails. So a call that raises before it has started anything leaves
  one of two worlds behind (`tag_event_after_failure`). If writing the tag failed, nothing has
  changed, and a later call starts what the first one was to start (`TagStarts`). If something
  failed afterwards, the lead carries the tag, and every later call finds it there and starts
  nothing (`TagIgnored`): no other table is written together with that of the leads.
-/

namespace Nurture

open Nurture.Action

variable {σ : Type} {s : Surroundings σ} {w w' w₁ : World σ} {db : Database} {r : LeadRow}
  {id tag : String} {e : Failure}

/-! ## Leads and their tags -/

/-- The row of the lead with an identifier. -/
def Database.leadRow? (db : Database) (id : String) : Option LeadRow :=
  db.leads.find? fun r => r.id == id

/-- Whether the lead carries the tag. -/
def LeadRow.carries (r : LeadRow) (tag : String) : Bool := r.tags.any (Json.str tag).same

/-- The row with the tag added. -/
def LeadRow.tagged (r : LeadRow) (tag : String) : LeadRow :=
  { r with tags := r.tags ++ [.str tag] }

theorem LeadRow.carries_tagged (r : LeadRow) (tag : String) :
    (r.tagged tag).carries tag = true := by
  have hself : (Json.str tag).same (.str tag) = true := by simp [Json.same, Json.sameScalar]
  rw [carries, tagged, List.any_append, List.any_cons, hself, Bool.true_or, Bool.or_true]

theorem LeadRow.Sound.tagged (h : r.Sound) (tag : String) : (r.tagged tag).Sound :=
  { h with texts := List.forall_mem_append.mpr ⟨h.texts, by simp⟩ }

theorem Database.id_of_leadRow? (h : db.leadRow? id = some r) : r ∈ db.leads ∧ r.id = id :=
  ⟨List.mem_of_find?_eq_some h, by simpa using List.find?_some h⟩

theorem Database.leadRow?_putLead (h : db.leadRow? id = some r) (tag : String) :
    (db.putLead (r.tagged tag)).leadRow? id = some (r.tagged tag) := by
  obtain ⟨-, rfl⟩ := id_of_leadRow? h
  have hfound : ((putRow LeadRow.id (r.tagged tag) db.leads).find?
      fun x => x.id == (r.tagged tag).id) = some (r.tagged tag) := find?_putRow
  exact hfound

/-! ## Adding a tag -/

namespace Store

theorem run_tagLead (hr : w.database.leadRow? id = some r) (tag : String) (s : Surroundings σ) :
    (tagLead id (.str tag)).run s w = match Column.whole id with
      | .error e => (.error e, w)
      | .ok _ =>
        if r.carries tag then (.ok false, w)
        else match writingTime s.databaseClock with
          | .error e => (.error e, w)
          | .ok _ => (.ok true,
              { w with
                database := w.database.putLead (r.tagged tag)
                journal := w.journal ++ [.tagAdded (.str tag) id] }) := by
  unfold tagLead
  rw [run_bind, run_leadRow?]
  cases Column.whole id with
  | error e => rfl
  | ok _ =>
    rw [Database.leadRow?] at hr
    simp only [Except.map, hr]
    cases hcarries : r.carries tag with
    | true =>
      rw [LeadRow.carries] at hcarries
      rw [if_pos hcarries]
      rfl
    | false =>
      rw [LeadRow.carries] at hcarries
      rw [if_neg (Bool.eq_false_iff.mp hcarries), run_bind_ok (run_databaseClock s w), run_bind,
        run_ofExcept]
      cases writingTime s.databaseClock <;> rfl

theorem addTag_answer (hs : s.Genuine .addTag) (hr : w.database.leadRow? id = some r)
    {reply : Reply Bool} (h : (addTag id (.str tag)).run s w = (.ok reply, w₁)) :
    reply = .own (!r.carries tag) ∧ (r.carries tag = true → w₁.database = w.database) ∧
      (r.carries tag = false → w₁.database = w.database.putLead (r.tagged tag)) := by
  rw [addTag_eq] at h
  obtain ⟨b, rfl⟩ := own_of_genuine hs h
  obtain ⟨o, hbody⟩ := run_guarded_eq_own h
  rw [run_tagLead (w := { w with outside := o }) hr] at hbody
  cases hwhole : Column.whole id with
  | error e =>
    rw [hwhole] at hbody
    cases hbody
  | ok _ =>
    rw [hwhole] at hbody
    cases hcarries : r.carries tag with
    | true =>
      simp only [hcarries, if_true] at hbody
      cases hbody
      exact ⟨rfl, fun _ => rfl, nofun⟩
    | false =>
      simp only [hcarries, Bool.false_eq_true, if_false] at hbody
      cases htime : writingTime s.databaseClock with
      | error e =>
        rw [htime] at hbody
        cases hbody
      | ok _ =>
        rw [htime] at hbody
        cases hbody
        exact ⟨rfl, nofun, fun _ => rfl⟩

theorem addTag_of_none (hs : (s.interrupt .addTag w.outside).1 = none)
    (hclock : Calendar.inRange s.databaseClock.instant = true) (hid : Text.isWhole id = true)
    (hr : w.database.leadRow? id = some r) (hnew : r.carries tag = false) :
    ∃ w₁, (addTag id (.str tag)).run s w = (.ok (.own true), w₁) ∧
      w₁.database = w.database.putLead (r.tagged tag) ∧ w₁.issued = w.issued := by
  have htime : writingTime s.databaseClock
      = .ok (s.databaseClock.instant / Calendar.second * Calendar.second) :=
    ExecutionRow.writingTime_eq_ok_iff.mpr ⟨hclock, rfl⟩
  have hbody := run_tagLead (w := { w with outside := (s.interrupt .addTag w.outside).2 }) hr tag s
  rw [Column.whole_eq_ok hid] at hbody
  simp only [hnew, Bool.false_eq_true, if_false, htime] at hbody
  rw [addTag_eq, guarded, relayed_of_none hs, run_map, hbody]
  exact ⟨_, rfl, rfl, rfl⟩

theorem addTag_of_carried (hs : (s.interrupt .addTag w.outside).1 = none)
    (hid : Text.isWhole id = true) (hr : w.database.leadRow? id = some r)
    (hold : r.carries tag = true) :
    ∃ w₁, (addTag id (.str tag)).run s w = (.ok (.own false), w₁) := by
  have hbody := run_tagLead (w := { w with outside := (s.interrupt .addTag w.outside).2 }) hr tag s
  rw [Column.whole_eq_ok hid] at hbody
  simp only [hold, if_true] at hbody
  rw [addTag_eq, guarded, relayed_of_none hs, run_map, hbody]
  exact ⟨_, rfl⟩

end Store

/-! ## What follows a tag -/

/-- Starts the funnels that listen for the tag of a lead, and drives what is due. -/
def fireTag (id tag : String) : Action σ Unit := do
  let lead ← Store.getLead id
  match lead.given? with
  | some lead =>
    let _ ← triggerFunnels (Trigger.tagAdded tag) (lead.map (·.id)) [] true
  | none => pure ()

theorem run_tagLead_added (h : (Store.addTag id (.str tag)).run s w = (.ok (.own true), w₁)) :
    (tagLead id (.str tag)).run s w = (fireTag id tag >>= fun _ => pure (.own true)).run s w₁ := by
  unfold tagLead fireTag
  rw [run_bind_ok h, Action.bind_assoc]
  simp only [Reply.isGiven, if_true, Json.displayText_str]
  congr 2
  funext lead
  cases lead.given? <;> simp only [Action.bind_assoc] <;> rfl

theorem run_tagLead_carried (h : (Store.addTag id (.str tag)).run s w = (.ok (.own false), w₁)) :
    (tagLead id (.str tag)).run s w = (.ok (.own false), w₁) := by
  unfold tagLead
  rw [run_bind_ok h]
  rfl

theorem run_tagLead_failed (h : (Store.addTag id (.str tag)).run s w = (.error e, w₁)) :
    (tagLead id (.str tag)).run s w = (.error e, w₁) := by
  unfold tagLead
  rw [run_bind_error h]

theorem processExecutions_allOrNothing (now : Calendar.Stamp) :
    AllOrNothing s (processExecutions now) := by
  rw [processExecutions_eq]
  refine .bind' (fun w => ((readDue_quiet s now).database_eq w).symm) fun read => ?_
  refine Succeeds.fails fun w => ?_
  obtain ⟨⟨departures, h⟩, -⟩ := attempts_collect read.2.1 read.2.2 now s read.1 w
  obtain ⟨w', hrun, -⟩ := run_driveDue_of_collect (Prod.ext h rfl)
  exact ⟨_, _, hrun⟩

theorem driveCreated_allOrNothing (created : List Execution) :
    AllOrNothing s (driveCreated created) := by
  have hpass : AllOrNothing s processNow :=
    .bind' Takes.clock' fun now => processExecutions_allOrNothing now
  cases created with
  | nil => exact (Succeeds.pure' []).fails
  | cons x xs => exact hpass.map' (f := fun _ => x :: xs)

theorem triggerFunnels_true_eq (trigger : String) (lead : Reply String) (context : Json.Fields) :
    (triggerFunnels trigger lead context true : Action σ _)
      = triggerFunnels trigger lead context false >>= driveCreated := by
  rw [triggerFunnels_true]
  congr 1
  funext created
  cases created <;> rfl

/-- A trigger that fails before it has added a row has changed nothing. -/
theorem triggerFunnels_raised {trigger : String} {lead : Reply String} {context : Json.Fields}
    (h : (triggerFunnels trigger lead context true).run s w = (.error e, w'))
    (hnone : w'.database.executions.map (·.id) = w.database.executions.map (·.id)) :
    w'.database = w.database := by
  rw [triggerFunnels_true_eq] at h
  have hstarts := triggerFunnels_starts (s := s) trigger lead context w
  obtain ⟨w₁, hdb, hrun⟩ : ∃ w₁, w'.database = w₁.database ∧
      ((triggerFunnels trigger lead context false).run s w).2 = w₁ := by
    refine ⟨_, ?_, rfl⟩
    rw [run_bind] at h
    rcases hfirst : (triggerFunnels trigger lead context false).run s w with ⟨e' | created, w₁⟩
    · rw [hfirst] at h
      cases h
      rfl
    · rw [hfirst] at h
      have hpass := driveCreated_allOrNothing (s := s) created w₁ e
      rw [show (driveCreated created).run s w₁ = (.error e, w') from h] at hpass
      exact (hpass rfl).resolve_right id
  rw [hrun] at hstarts
  obtain ⟨-, gs, news, -, -, hadds, -⟩ := hstarts.starts
  rw [hdb, hadds.database_eq, List.map_append] at hnone
  have hnews : news = [] := by simpa using hnone
  rw [hdb, hadds.database_eq, hnews, List.append_nil]

theorem fireTag_raised (h : (fireTag id tag).run s w = (.error e, w'))
    (hnone : w'.database.executions.map (·.id) = w.database.executions.map (·.id)) :
    w'.database = w.database := by
  unfold fireTag at h
  rw [run_bind] at h
  rcases hlead : (Store.getLead id).run s w with ⟨e' | lead, w₁⟩
  · rw [hlead] at h
    cases h
    exact ((Store.getLead_still id).quiet.same_of_run hlead).1
  · obtain ⟨hdb, -⟩ := (Store.getLead_still id).quiet.same_of_run hlead
    rw [hlead] at h
    dsimp only at h
    cases hgiven : lead.given? with
    | none =>
      rw [hgiven] at h
      cases h
    | some l =>
      rw [hgiven] at h
      dsimp only at h
      rw [run_bind] at h
      rcases htrigger : (triggerFunnels (Trigger.tagAdded tag) (l.map (·.id)) [] true).run s w₁
        with ⟨e' | created, w₂⟩
      · rw [htrigger] at h
        cases h
        rw [← hdb] at hnone ⊢
        exact triggerFunnels_raised htrigger hnone
      · rw [htrigger] at h
        cases h

/-! ## Calls that nothing comes in the way of -/

/-- Nothing comes in the way of triggers and passes: the store is at hand, the clocks show times of
UTC, and all rows can be read and told apart. -/
structure Unhampered (s : Surroundings σ) (w : World σ) : Prop extends Ready s w where
  clock_known : s.clock.isLocal = false
  readable : w.database.Readable
  keyed : w.database.Keyed

theorem Unhampered.none_of (h : Unhampered s w) {c : Call} (hc : c ≠ .runNode)
    (hc' : c ≠ .getTemplate) (hc'' : c ≠ .updateExecution) (o : σ) :
    (s.interrupt c o).1 = none :=
  h.steady.none_of hc hc' hc'' o

theorem Unhampered.putLead (h : Unhampered s w) {row : LeadRow} (hrow : row.Sound)
    (hdb : w'.database = w.database.putLead row) (hissued : w'.issued = w.issued) :
    Unhampered s w' where
  steady := h.steady
  clock_inRange := h.clock_inRange
  databaseClock_inRange := h.databaseClock_inRange
  unissued := by
    unfold World.Unissued
    rw [hdb, hissued]
    exact h.unissued
  load_funnels := hdb ▸ h.load_funnels
  whole_funnels := hdb ▸ h.whole_funnels
  clock_known := h.clock_known
  readable := hdb ▸ h.readable.putLead hrow
  keyed := hdb ▸ ⟨h.keyed.nodup, h.keyed.whole⟩

theorem Store.run_getLead (hs : ∀ o, (s.interrupt .getLead o).1 = none)
    (hid : Text.isWhole id = true) {row : LeadRow} (hrow : w.database.leadRow? id = some row)
    {l : Lead} (hload : row.load = .ok l) :
    ∃ w', (getLead id).run s w = (.ok (.own (some l)), w') ∧ w'.database = w.database ∧
      w'.issued = w.issued := by
  have hfind := run_leadRow? (s := s)
    (w := { w with outside := (s.interrupt .getLead w.outside).2 }) id
  rw [Column.whole_eq_ok hid] at hfind
  rw [Database.leadRow?] at hrow
  rw [getLead, guarded, relayed_of_none (hs _), run_map, run_bind_ok hfind]
  simp only [hrow, loadLead?, hload]
  exact ⟨_, rfl, rfl, rfl⟩

theorem StartsAll.readable {texts : Context} {pairs : List (String × Funnel)}
    {created : List Execution} (h : StartsAll s texts pairs created w w')
    (hw : w.database.Readable) : w'.database.Readable := by
  rw [h.adds.database_eq]
  refine ⟨hw.funnels, fun x hx => ?_, hw.leads⟩
  rcases List.mem_append.mp hx with hx | hx
  · exact hw.executions x hx
  · obtain ⟨e, -, rfl⟩ := List.mem_map.mp hx
    exact ExecutionRow.isReadable_rowOf e s.databaseClock

theorem run_driveCreated (hs : Steady s) (hclock : s.clock.isLocal = false)
    (hk : w.database.Keyed) (hr : w.database.Readable) (created : List Execution) :
    ∃ w', (driveCreated created).run s w = (.ok created, w') := by
  cases created with
  | nil => exact ⟨w, rfl⟩
  | cons x xs =>
    obtain ⟨report, w', g, hrun, -⟩ := processExecutions_exact hk hr.loadable hs hclock
    have hnow : processNow.run s w = (.ok report, w') := by
      rw [processNow, run_bind_ok (run_clock s w), hrun]
    refine ⟨w', ?_⟩
    unfold driveCreated
    simp only [List.isEmpty_cons, Bool.not_false, if_true]
    rw [run_bind_ok hnow, run_pure]

/-- The call answers that the tag is new and starts each eligible funnel: the tag is added to the
lead, executions of the funnels are added to these tables, and then what is due is driven. -/
def TagStarts (s : Surroundings σ) (w : World σ) (id tag : String) (r : LeadRow) : Prop :=
  ∃ fs created w₁ w₂ w', List.Forall₂ (fun r f => FunnelRow.load r = .ok f)
      w.database.funnelRows fs ∧
    w₁.database = w.database.putLead (r.tagged tag) ∧
    StartsAll s []
      (w.database.eligible s.policy.dedupe (Trigger.tagAdded tag) id fs) created w₁ w₂ ∧
    (driveCreated created).run s w₂ = (.ok created, w') ∧
    (tagLead id (.str tag)).run s w = (.ok (.own true), w')

/-- A tag that is new to a lead starts every funnel that is eligible for the lead, if nothing comes
in the way. -/
theorem tagLead_starts (h : Unhampered s w) (hne : id ≠ "") (hid : Text.isWhole id = true)
    (hr : w.database.leadRow? id = some r) (hnew : r.carries tag = false) :
    TagStarts s w id tag r := by
  obtain ⟨hmem, hrid⟩ := Database.id_of_leadRow? hr
  obtain ⟨w₁, hadd, hdb, hissued⟩ := Store.addTag_of_none
    (h.none_of (by decide) (by decide) (by decide) _) h.databaseClock_inRange hid hr hnew
  have hsound : (r.tagged tag).Sound := (h.readable.leads r hmem).tagged tag
  -- the lead is read back, with the tag
  have hread : w₁.database.leadRow? id = some (r.tagged tag) :=
    hdb ▸ Database.leadRow?_putLead hr tag
  obtain ⟨l, hload, hlid⟩ : ∃ l, (r.tagged tag).load = .ok l ∧ l.id = id := by
    obtain ⟨tags, hload⟩ := hsound.load
    exact ⟨_, hload, hrid⟩
  obtain ⟨w₂, hget, hdb₂, hissued₂⟩ := Store.run_getLead
    (h.none_of (by decide) (by decide) (by decide)) hid hread hload
  replace hdb₂ : w₂.database = w.database.putLead (r.tagged tag) := hdb₂.trans hdb
  have h₂ : Unhampered s w₂ := h.putLead hsound hdb₂ (hissued₂.trans hissued)
  -- the trigger starts what was eligible before
  have hadmits : w₂.database.Admits s.policy.dedupe id :=
    ⟨hne, hid, fun _ x hx _ _ => (h₂.readable.executions x hx).load⟩
  obtain ⟨fs, hfs⟩ : ∃ fs, List.Forall₂ (fun r f => FunnelRow.load r = .ok f)
      w.database.funnelRows fs :=
    exists_forall₂ fun r hr => h.load_funnels r (mem_inOrder.mp hr)
  have hfs₂ : List.Forall₂ (fun r f => FunnelRow.load r = .ok f) w₂.database.funnelRows fs :=
    hdb₂ ▸ hfs
  obtain ⟨created, w₃, htrigger, hstarts⟩ :=
    run_triggerFunnels (Trigger.tagAdded tag) [] h₂.toReady hadmits hfs₂
  have heligible : w₂.database.eligible s.policy.dedupe (Trigger.tagAdded tag) id fs
      = w.database.eligible s.policy.dedupe (Trigger.tagAdded tag) id fs := by
    rw [hdb₂]
    rfl
  obtain ⟨w₄, hdrive⟩ := run_driveCreated h.steady h.clock_known (hstarts.adds.keyed h₂.keyed)
    (hstarts.readable h₂.readable) created
  refine ⟨fs, created, w₂, w₃, w₄, hfs, hdb₂, heligible ▸ hstarts, hdrive, ?_⟩
  have hfire : (triggerFunnels (Trigger.tagAdded tag) (.own id) [] true).run s w₂
      = (.ok created, w₄) := by
    rw [triggerFunnels_true_eq]
    exact (run_bind_ok htrigger).trans hdrive
  rw [run_tagLead_added hadd, fireTag, Action.bind_assoc, run_bind_ok hget]
  change ((triggerFunnels (Trigger.tagAdded tag) (.own l.id) [] true >>= fun _ => pure ()) >>=
    fun _ => pure (Reply.own true)).run s w₂ = _
  rw [hlid, Action.bind_assoc, run_bind_ok hfire]
  rfl

/-- The call changes nothing and starts nothing: it answers that the tag is not new, or raises. -/
structure TagIgnored (s : Surroundings σ) (w : World σ) (id tag : String) : Prop where
  database_eq : ((tagLead id (.str tag)).run s w).2.database = w.database
  answer : ((tagLead id (.str tag)).run s w).1 = .ok (.own false) ∨
    ∃ e, ((tagLead id (.str tag)).run s w).1 = .error e
  answered : (s.interrupt .addTag w.outside).1 = none → Text.isWhole id = true →
    ((tagLead id (.str tag)).run s w).1 = .ok (.own false)

/-- A tag that a lead carries starts nothing. -/
theorem tagLead_ignored (hs : s.Genuine .addTag) (hr : w.database.leadRow? id = some r)
    (hold : r.carries tag = true) : TagIgnored s w id tag := by
  rcases hadd : (Store.addTag id (.str tag)).run s w with ⟨e | reply, w₁⟩
  · have hfails := Store.addTag_allOrNothing (s := s) id (.str tag) w e
    rw [hadd] at hfails
    have hrun := run_tagLead_failed hadd
    refine ⟨?_, .inr ⟨e, congrArg Prod.fst hrun⟩, fun hnone hid => ?_⟩
    · rw [hrun]
      exact (hfails rfl).resolve_right False.elim
    · obtain ⟨w₁, hadd'⟩ := Store.addTag_of_carried hnone hid hr hold
      rw [hadd] at hadd'
      cases hadd'
  · obtain ⟨hreply, hdb, -⟩ := Store.addTag_answer hs hr hadd
    rw [hold, Bool.not_true] at hreply
    rw [hreply] at hadd
    have hrun := run_tagLead_carried hadd
    exact ⟨by rw [hrun, hdb hold], .inl (congrArg Prod.fst hrun), fun _ _ => congrArg Prod.fst hrun⟩

/-! ## Calls that raise before anything was started -/

/-- If a call to tag a lead with a tag that is new to it raises before it has added an execution,
either the tag was not added and nothing has changed, so that a later call starts every funnel that
is eligible; or the only change is that the lead carries the tag, and later calls start nothing. -/
theorem tag_event_after_failure (hs : s.Genuine .addTag) (hr : w.database.leadRow? id = some r)
    (hnew : r.carries tag = false) (hraised : (tagLead id (.str tag)).run s w = (.error e, w'))
    (hnone : w'.database.executions.map (·.id) = w.database.executions.map (·.id)) :
    ((∃ e, ((Store.addTag id (.str tag)).run s w).1 = .error e) ∧
      w'.database = w.database ∧ w'.database.leadRow? id = some r ∧
      ∀ (s₂ : Surroundings σ) (w₂ : World σ) (r₂ : LeadRow), Unhampered s₂ w₂ → id ≠ "" →
        Text.isWhole id = true → w₂.database.leadRow? id = some r₂ → r₂.carries tag = false →
        TagStarts s₂ w₂ id tag r₂) ∨
    (((Store.addTag id (.str tag)).run s w).1 = .ok (.own true) ∧
      w'.database = w.database.putLead (r.tagged tag) ∧
      w'.database.leadRow? id = some (r.tagged tag) ∧ (r.tagged tag).carries tag = true ∧
      ∀ (s₂ : Surroundings σ) (w₂ : World σ) (r₂ : LeadRow), s₂.Genuine .addTag →
        w₂.database.leadRow? id = some r₂ → r₂.carries tag = true → TagIgnored s₂ w₂ id tag) := by
  rcases hadd : (Store.addTag id (.str tag)).run s w with ⟨e₁ | reply, w₁⟩
  · left
    have hfails := Store.addTag_allOrNothing (s := s) id (.str tag) w e₁
    rw [hadd] at hfails
    have hdb : w₁.database = w.database := (hfails rfl).resolve_right False.elim
    obtain rfl : w₁ = w' := congrArg Prod.snd ((run_tagLead_failed hadd).symm.trans hraised)
    exact ⟨⟨e₁, rfl⟩, hdb, hdb ▸ hr, fun _ _ _ h hne hid => tagLead_starts h hne hid⟩
  · right
    obtain ⟨hreply, -, hdb⟩ := Store.addTag_answer hs hr hadd
    rw [hnew, Bool.not_false] at hreply
    rw [hreply] at hadd
    have hdb₁ := hdb hnew
    -- what fails is what follows the tag
    have hfire : (fireTag id tag).run s w₁ = (.error e, w') := by
      rw [run_tagLead_added hadd, run_bind] at hraised
      rcases hrun : (fireTag id tag).run s w₁ with ⟨e₂ | _, w₂⟩
      · rw [hrun] at hraised
        cases hraised
        rfl
      · rw [hrun] at hraised
        cases hraised
    have hdb' : w'.database = w.database.putLead (r.tagged tag) :=
      (fireTag_raised hfire (by rw [hnone, hdb₁]; rfl)).trans hdb₁
    exact ⟨by rw [hreply], hdb', hdb' ▸ Database.leadRow?_putLead hr tag, r.carries_tagged tag,
      fun _ _ _ hs₂ hr₂ hold => tagLead_ignored hs₂ hr₂ hold⟩

/-! ### A tag that is added while the store goes away -/

namespace LostTag

/-- A funnel that listens for the tag. -/
def funnel : Funnel := { Newsletter.funnel with trigger := Trigger.tagAdded "vip" }

def leadRow : LeadRow := Newsletter.leadRow

def world : World Nat :=
  { World.fresh 0 with database := ⟨[funnel.toRow 0], [], [leadRow], []⟩ }

/-- The first listing of funnels breaks, and nothing else does. -/
def surroundings : Surroundings Nat where
  clock := Newsletter.start
  databaseClock := Newsletter.start
  policy := .usual .utc 2
  deliver _ o := (.accepted, o)
  interrupt c o :=
    if c = .listFunnels then (if o = 0 then some (.breaks "db gone") else none, o + 1)
    else (none, o)

theorem genuine : surroundings.Genuine .addTag := by
  intro o j h
  cases h

/-- The world that the call leaves behind. -/
def left : World Nat := ((tagLead "lead-1" (.str "vip")).run surroundings world).2

theorem raised : (tagLead "lead-1" (.str "vip")).run surroundings world
    = (.error (.broken "db gone"), left) := by
  rfl

theorem vip_after_failure :
    (surroundings.Genuine .addTag ∧ world.database.leadRow? "lead-1" = some leadRow ∧
      leadRow.carries "vip" = false ∧
      (tagLead "lead-1" (.str "vip")).run surroundings world = (.error (.broken "db gone"), left) ∧
      left.database.executions.map (·.id) = world.database.executions.map (·.id)) ∧
    left.database.leadRow? "lead-1" = some (leadRow.tagged "vip") := by
  have hlead : world.database.leadRow? "lead-1" = some leadRow := rfl
  have hnew : leadRow.carries "vip" = false := rfl
  refine ⟨⟨genuine, hlead, hnew, raised, rfl⟩, ?_⟩
  rcases tag_event_after_failure genuine hlead hnew raised rfl with
    ⟨⟨e, hadd⟩, -⟩ | ⟨-, -, htagged, -⟩
  · cases hadd
  · exact htagged

/-- The call raises before it has added an execution, the lead carries the tag, and another call
that nothing comes in the way of answers no and starts nothing, though the funnel is eligible. -/
theorem event_lost :
    (∃ e, ((tagLead "lead-1" (.str "vip")).run surroundings world).1 = .error e) ∧
    left.database.executions.map (·.id) = [] ∧
    left.database.leadRow? "lead-1" = some (leadRow.tagged "vip") ∧
    funnel.isEligible left.database true (Trigger.tagAdded "vip") "lead-1" = true ∧
    (∀ c, (surroundings.interrupt c left.outside).1 = none) ∧
    ((tagLead "lead-1" (.str "vip")).run surroundings left).1 = .ok (.own false) ∧
    ((tagLead "lead-1" (.str "vip")).run surroundings left).2.database.executions.map (·.id)
      = [] := by
  refine ⟨⟨_, congrArg Prod.fst raised⟩, rfl, rfl, rfl, fun c => ?_, rfl, rfl⟩
  cases c <;> rfl

end LostTag

end Nurture
