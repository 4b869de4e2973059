import Nurture.Proofs.ReadableRows

/-!
  Calls that fail

  Most calls that change tables do all that can fail before they write, so that one that fails has
  changed nothing (`AllOrNothing`). The exceptions read back what they have written: an update of a
  lead, whose values are checked only then, and a subscription of the address of a lead that could
  not be read before. What they wrote stays although they fail (`TableCall.FailsLate`). With values
  that fit the fields of a lead, and leads that can be read, it does not come to that.
-/

namespace Nurture

open Validation Validation.Checked

variable {σ α β : Type} {s : Surroundings σ} {w : World σ} {db : Database}
  {L L' : Database → Failure → Database → Prop}

/-! ## Actions that change nothing if they fail -/

namespace Action

/-- The action does not fail. -/
def Succeeds (s : Surroundings σ) (x : Action σ α) : Prop := ∀ w, ∃ a w', x.run s w = (.ok a, w')

/-- If the action fails, the tables are what they were, or what `L` says. -/
def Fails (s : Surroundings σ) (x : Action σ α) (L : Database → Failure → Database → Prop) : Prop :=
  ∀ w e, (x.run s w).1 = .error e →
    (x.run s w).2.database = w.database ∨ L w.database e (x.run s w).2.database

/-- If the action fails, the tables are what they were. -/
abbrev AllOrNothing (s : Surroundings σ) (x : Action σ α) : Prop := Fails s x fun _ _ _ => False

namespace Succeeds

theorem pure' (a : α) : Succeeds s (pure a : Action σ α) := fun w => ⟨a, w, rfl⟩

theorem note' (events : List Journal.Event) : Succeeds s (note events : Action σ Unit) :=
  fun _ => ⟨_, _, rfl⟩

theorem modify' (f : Database → Database) : Succeeds s (modifyDatabase f : Action σ Unit) :=
  fun _ => ⟨_, _, rfl⟩

theorem bind' {x : Action σ α} {f : α → Action σ β} (hx : Succeeds s x)
    (hf : ∀ a, Succeeds s (f a)) : Succeeds s (x >>= f) := by
  intro w
  obtain ⟨a, w₁, hrun⟩ := hx w
  rw [run_bind_ok hrun]
  exact hf a w₁

theorem fails {x : Action σ α} (hx : Succeeds s x) : Fails s x L := by
  intro w e h
  obtain ⟨a, w', hrun⟩ := hx w
  rw [hrun] at h
  cases h

end Succeeds

namespace Fails

theorem mono {x : Action σ α} (hx : Fails s x L) (h : ∀ db e db', L db e db' → L' db e db') :
    Fails s x L' :=
  fun w e hfails => (hx w e hfails).imp_right (h _ _ _)

theorem ofTables {x : Action σ α} (hx : Takes (Tables (· = ·)) s x) : Fails s x L :=
  fun w _ _ => .inl (hx w).symm

/-- Whatever fails before the first write leaves the tables as they were. -/
theorem bind' {x : Action σ α} {f : α → Action σ β} (hx : Takes (Tables (· = ·)) s x)
    (hf : ∀ a, Fails s (f a) L) : Fails s (x >>= f) L := by
  intro w e h
  have hdb : w.database = (x.run s w).2.database := hx w
  rw [run_bind] at h ⊢
  rcases hrun : x.run s w with ⟨e' | a, w₁⟩
  · rw [hrun] at hdb
    exact .inl hdb.symm
  · rw [hrun] at h hdb
    rw [hdb]
    exact hf a w₁ e h

theorem bindOfExcept' {r : Except Failure α} {f : α → Action σ β}
    (hf : ∀ a, r = .ok a → Fails s (f a) L) : Fails s (ofExcept r >>= f) L := by
  cases r with
  | error e => exact ofTables (Takes.fail' e)
  | ok a => exact hf a rfl

theorem ite' {c : Prop} [Decidable c] {x y : Action σ α} (hx : Fails s x L) (hy : Fails s y L) :
    Fails s (if c then x else y) L := by
  split
  · exact hx
  · exact hy

theorem failIf' {c : Prop} [Decidable c] {e : Failure} {x : Action σ α} (hx : Fails s x L) :
    Fails s (if c then fail e >>= fun _ : Unit => x else x) L :=
  ite' (bind' (Takes.fail' e) fun _ => hx) hx

theorem map' {f : α → β} {x : Action σ α} (hx : Fails s x L) : Fails s (f <$> x) L := by
  intro w e h
  rw [run_map] at h ⊢
  rcases hrun : x.run s w with ⟨e' | a, w₁⟩
  · have hleft := hx w e' (congrArg Prod.fst hrun)
    rw [hrun] at h hleft
    cases h
    exact hleft
  · rw [hrun] at h
    cases h

theorem guarded' {c : Call} {body : Action σ α} (hbody : Fails s body L) :
    Fails s (guarded c body) L := by
  intro w e
  refine guarded_leaves
    (Q := fun answer db _ => answer = .error e → db = w.database ∨ L w.database e db)
    (fun _ _ => .inl rfl) (fun _ h => by cases h) fun o h => ?_
  have hmapped := hbody.map' (f := Reply.own) { w with outside := o } e
  rw [run_map] at hmapped
  exact hmapped h

end Fails

end Action

open Nurture.Action Nurture.Action.Takes

/-! ## Calls that write last -/

namespace Store

theorem newId_fails {given : Option String} {kind : Kind} {count : Issued → Nat}
    {next : Issued → Issued} {k : String → Action σ α} (hk : ∀ id, Fails s (k id) L) :
    Fails s (match given with
      | some id => pure id >>= k
      | none => issue kind count next >>= k) L := by
  cases given with
  | none => exact .bind' (issue' fun _ => rfl) hk
  | some id => exact .bind' (pure' id) hk

theorem write_succeeds (f : Database → Database) (events : List Journal.Event) (a : α) :
    Succeeds s (do modifyDatabase f; note events; return a : Action σ α) :=
  .bind' (.modify' f) fun _ => .bind' (.note' events) fun _ => .pure' a

theorem saveFunnel_allOrNothing (draft : Draft Funnel) : AllOrNothing s (saveFunnel draft) := by
  refine .guarded' (newId_fails fun id => ?_)
  refine .bind' (funnelRow?_still _).ofStill fun held => .bind' databaseClock' fun now => ?_
  refine .bind' (ofExcept' _) fun row? => ?_
  cases row? with
  | none => exact (Succeeds.bind' (.note' _) fun _ => .pure' _).fails
  | some row => exact (write_succeeds _ _ _).fails

theorem deleteFunnel_allOrNothing (id : String) : AllOrNothing s (deleteFunnel id) := by
  refine .guarded' (.bind' (funnelRow?_still id).ofStill fun row => ?_)
  cases row with
  | none => exact (Succeeds.pure' _).fails
  | some row => exact (write_succeeds _ _ _).fails

theorem saveTemplate_allOrNothing (draft : Draft Template) :
    AllOrNothing s (saveTemplate draft) := by
  refine .guarded' (newId_fails fun id => ?_)
  refine .bind' (templateRow?_still _).ofStill fun held => .bind' databaseClock' fun now => ?_
  exact .bind' (ofExcept' _) fun row => (write_succeeds _ _ _).fails

theorem createExecution_allOrNothing (draft : Draft Execution) :
    AllOrNothing s (createExecution draft) := by
  refine .guarded' (newId_fails fun id => ?_)
  refine .bind' databaseClock' fun now => ?_
  refine .bind' (ofExcept' _) fun row => .bind' database' fun db => ?_
  exact .failIf' (write_succeeds _ _ _).fails

theorem updateExecution_allOrNothing (id : String) (p : ExecutionPatch) :
    AllOrNothing s (updateExecution id p) := by
  refine .guarded' (.failIf' (.bind' (executionRow?_still id).ofStill fun row => ?_))
  cases row with
  | none => exact (Succeeds.pure' _).fails
  | some row =>
    refine .bind' databaseClock' fun now => .bind' (ofExcept' _) fun row' => ?_
    exact (Succeeds.bind' (.modify' _) fun _ => .pure' _).fails

theorem addTag_allOrNothing (id : String) (tag : Json) : AllOrNothing s (addTag id tag) := by
  refine .guarded' (.bind' (leadRow?_still id).ofStill fun row => ?_)
  cases row with
  | none => exact (Succeeds.bind' (.note' _) fun _ => .pure' _).fails
  | some row =>
    refine .ite' (Succeeds.pure' _).fails ?_
    refine .bind' databaseClock' fun now => .bind' (ofExcept' _) fun _ => ?_
    exact (write_succeeds _ _ _).fails

theorem deleteLead_allOrNothing (id : String) : AllOrNothing s (deleteLead id) := by
  refine .guarded' (.bind' (leadRow?_still id).ofStill fun row => ?_)
  cases row with
  | none => exact (Succeeds.pure' _).fails
  | some row => exact (write_succeeds _ _ _).fails

end Store

/-! ## Leads that are read back -/

namespace LeadRow

variable {r r' : LeadRow} {now : Calendar.Stamp} {fields : Json.Fields} {tags : List Json}

/-- The values that an update gives fit the fields of a lead. What counts as nothing may stand for a
name or a phone, and null for a source. -/
structure Fitting (fields : Json.Fields) : Prop where
  name : ∀ j, fields.get? "name" = some j → j.isGiven = false ∨ ∃ t, j = .str t
  phone : ∀ j, fields.get? "phone" = some j → j.isGiven = false ∨ ∃ t, j = .str t
  status : ∀ j, fields.get? "status" = some j → ∃ t, j = .str t
  stage : ∀ j, fields.get? "pipeline_stage" = some j → ∃ t, j = .str t
  source : ∀ j, fields.get? "source" = some j → j = .null ∨ ∃ t, j = .str t
  tags : ∀ j items, fields.get? "tags" = some j → j.members? = some items →
    ∀ i ∈ items, ∃ t, i = .str t

theorem value_of {P : Json → Prop} {key : String} {held : Json}
    (hgiven : ∀ j, fields.get? key = some j → P j) (hheld : P held) :
    P ((fields.get? key).getD held) := by
  cases hget : fields.get? key with
  | none => exact hheld
  | some j => exact hgiven j hget

theorem Fitting.newTags (hfields : Fitting fields) (hr : ∀ j ∈ r.tags, ∃ t, j = .str t)
    (h : r.newTags fields = .ok tags) : ∀ j ∈ tags, ∃ t, j = .str t := by
  rcases newTags_eq_ok_iff.mp h with ⟨-, rfl⟩ | ⟨j, hget, hmembers⟩
  · exact hr
  · exact hfields.tags j tags hget hmembers

theorem text_orEmptyText {j : Json} (h : j.isGiven = false ∨ ∃ t, j = .str t) :
    ∃ t, text (orEmptyText j) = good t := by
  unfold orEmptyText
  split
  · rename_i hgiven
    rcases h with h | ⟨t, rfl⟩
    · rw [h] at hgiven
      cases hgiven
    · exact ⟨t, rfl⟩
  · exact ⟨"", rfl⟩

theorem Fitting.updatedLead (hfields : Fitting fields) (htags : ∀ j ∈ tags, ∃ t, j = .str t)
    {email : String} (hemail : Lead.checkEmail (.str r.email) = good email) :
    ∃ l, r.updatedLead fields tags = .ok l := by
  obtain ⟨name, hname⟩ := text_orEmptyText (value_of hfields.name (.inr ⟨r.name, rfl⟩))
  obtain ⟨phone, hphone⟩ := text_orEmptyText (value_of hfields.phone (.inr ⟨r.phone, rfl⟩))
  obtain ⟨status, hstatus⟩ := value_of hfields.status ⟨r.status, rfl⟩
  obtain ⟨stage, hstage⟩ := value_of hfields.stage ⟨r.stage, rfl⟩
  obtain ⟨source, hsource⟩ : ∃ source,
      orNull text ((fields.get? "source").getD (.ofOption r.source)) = good source := by
    refine value_of (P := fun j => ∃ source, orNull text j = good source) (fun j hj => ?_)
      ⟨_, orNull_text_ofOption _⟩
    rcases hfields.source j hj with rfl | ⟨t, rfl⟩
    · exact ⟨none, rfl⟩
    · exact ⟨some t, rfl⟩
  obtain ⟨texts, htexts⟩ := exists_forall₂ htags
  refine ⟨_, map_eq_ok_iff.mpr ⟨_, mapError_eq_ok_iff.mpr (toExcept_eq_ok_iff.mpr
    (Lead.checkFields_eq_good_iff.mpr ⟨none, email, name, phone, status, texts, stage, source, none,
      rfl, within_eq_good_iff.mpr hemail, within_eq_good_iff.mpr hname,
      within_eq_good_iff.mpr hphone, within_eq_good_iff.mpr (text_eq_good_iff.mpr hstatus),
      within_eq_good_iff.mpr (listOf_text_eq_good_iff.mpr htexts),
      within_eq_good_iff.mpr (text_eq_good_iff.mpr hstage), within_eq_good_iff.mpr hsource, rfl,
      rfl⟩)), rfl⟩⟩

end LeadRow

/-! ## Failures that come too late -/

namespace Store

variable {now : Calendar.Stamp} {id : String} {fields : Json.Fields} {form : SubscriptionForm}
  {e : Failure}

/-- A row took the values of an update, and they do not pass the check of a lead. -/
inductive RevisedLate (now : Calendar.Stamp) (id : String) (fields : Json.Fields) (db : Database)
    (e : Failure) : Database → Prop
  | put {r r' : LeadRow} {tags : List Json} (hr : r ∈ db.leads) (hid : r.id = id)
      (htags : r.newTags fields = .ok tags) (hrow : r.update fields tags now = .ok r')
      (hlead : r'.updatedLead fields tags = .error e) :
      RevisedLate now id fields db e (db.putLead r')

/-- The row of the address took the name and the phone of a subscription, and it cannot be read. -/
inductive RefreshedLate (now : Calendar.Stamp) (form : SubscriptionForm) (db : Database)
    (e : Failure) : Database → Prop
  | put {sub : Subscription} {held row : LeadRow} (hform : form.check = good sub)
      (hheld : held ∈ db.leads) (hemail : held.email = sub.email)
      (hrow : held.refreshed sub now = .ok row) (hload : row.load = .error e) :
      RefreshedLate now form db e (db.putLead row)

theorem revise_fails (id : String) (fields : Json.Fields) :
    Fails s (revise id fields) (RevisedLate s.databaseClock id fields) := by
  intro w e h
  rcases run_revise id fields s w with
    ⟨answer, -, hrun⟩ | ⟨r, hr, tags, r', htags, hrow, hid, -, hrun⟩
  · rw [hrun]
    exact .inl rfl
  · rw [hrun] at h ⊢
    refine .inr (.put hr hid htags hrow ?_)
    cases hlead : r'.updatedLead fields tags with
    | error e' =>
      rw [hlead] at h
      cases h
      rfl
    | ok l =>
      rw [hlead] at h
      cases h

theorem updateLead_fails (id : String) (fields : Json.Fields) :
    Fails s (updateLead id fields) (RevisedLate s.databaseClock id fields) :=
  .guarded' (revise_fails id fields)

theorem updateStage_fails (id : String) (stage : Json) :
    Fails s (updateStage id stage) (RevisedLate s.databaseClock id [("pipeline_stage", stage)]) :=
  .guarded' (.map' (updateLead_fails id [("pipeline_stage", stage)]))

/-- The row of a new lead can be read, so what can fail about it fails before it is written. -/
theorem addLead_allOrNothing {sub : Subscription} (hform : form.check = good sub) :
    AllOrNothing s (addLead sub now) := by
  refine .bind' (issue' fun _ => rfl) fun id => .bind' (note' _) fun _ => ?_
  refine .bindOfExcept' fun row hrow => .bind' database' fun db => .failIf' ?_
  obtain ⟨tags, hload⟩ := (LeadRow.Sound.of_subscription hform hrow).load
  rw [hload]
  exact (Succeeds.bind' (.modify' _) fun _ => .pure' _).fails

theorem refreshLead_fails {sub : Subscription} {held : LeadRow} (hform : form.check = good sub)
    (hheld : held ∈ w.database.leads) (hemail : held.email = sub.email)
    (h : ((refreshLead sub held now).run s w).1 = .error e) :
    ((refreshLead sub held now).run s w).2.database = w.database ∨
      RefreshedLate now form w.database e ((refreshLead sub held now).run s w).2.database := by
  obtain ⟨w', hrun, -, hdb⟩ := run_refreshLead (s := s) (w := w) sub held now
  rw [hrun] at h ⊢
  rw [hdb]
  cases hrow : held.refreshed sub now with
  | error e' => exact .inl rfl
  | ok row =>
    rw [hrow] at h
    exact .inr (.put hform hheld hemail hrow h)

theorem enrol_fails (form : SubscriptionForm) :
    Fails s (enrol form) (RefreshedLate s.databaseClock form) := by
  refine .bindOfExcept' fun sub hsub => ?_
  have hform : form.check = good sub := toExcept_eq_ok_iff.mp (mapError_eq_ok_iff.mp hsub)
  intro w e h
  rw [run_bind, run_leadRowByEmail?] at h ⊢
  cases hwhole : Column.whole sub.email with
  | error e' => exact .inl rfl
  | ok _ =>
    rw [hwhole] at h
    simp only [Except.map, run_bind_ok (run_databaseClock s w)] at h ⊢
    cases hfind : w.database.leads.find? fun r => r.email == sub.email with
    | none =>
      rw [hfind] at h
      exact (addLead_allOrNothing hform).mono (fun _ _ _ => False.elim) w e h
    | some held =>
      rw [hfind] at h
      exact refreshLead_fails hform (List.mem_of_find?_eq_some hfind)
        (by simpa using List.find?_some hfind) h

theorem subscribe_fails (form : SubscriptionForm) :
    Fails s (subscribe form) (RefreshedLate s.databaseClock form) :=
  .guarded' (enrol_fails form)

/-- With fitting values and rows that can be read, an update does not fail late. -/
theorem RevisedLate.not_fitting {db' : Database} (h : RevisedLate now id fields db e db')
    (hloads : ∀ r ∈ db.leads, ∃ l, r.load = .ok l) : ¬ LeadRow.Fitting fields := by
  intro hfields
  cases h with
  | @put r r' tags hr hid htags hrow hlead =>
    obtain ⟨l, hl⟩ := hloads r hr
    obtain ⟨email, texts, hemail, htexts, -⟩ := LeadRow.load_eq_ok_iff.mp hl
    have hkept : r'.email = r.email := by
      obtain ⟨name, phone, status, stage, source, -, -, -, -, -, rfl⟩ := LeadRow.eq_of_update hrow
      rfl
    have htags' : ∀ j ∈ tags, ∃ t, j = .str t :=
      hfields.newTags (fun j hj => (exists_mem_of_forall₂ htexts hj).imp fun _ h => h.2) htags
    obtain ⟨l', hl'⟩ := hfields.updatedLead htags' (hkept ▸ hemail)
    rw [hl'] at hlead
    cases hlead

theorem RefreshedLate.not_loadable {db' : Database} (h : RefreshedLate now form db e db') :
    ∃ r ∈ db.leads, ∀ l, r.load ≠ .ok l := by
  cases h with
  | @put sub held row hform hheld hemail hrow hload =>
    refine ⟨held, hheld, fun l hl => ?_⟩
    obtain ⟨-, -, -, rfl⟩ := LeadRow.refreshed_eq_ok_iff.mp hrow
    obtain ⟨email, tags, hemail, htags, -⟩ := LeadRow.load_eq_ok_iff.mp hl
    have hread : (held.refreshedBy sub).load = .ok _ :=
      LeadRow.load_eq_ok_iff.mpr ⟨email, tags, hemail, htags, rfl⟩
    rw [hread] at hload
    cases hload

end Store

namespace TableCall

/-- The call fails after it has written: an update whose values do not pass the check of a lead, or
a subscription of the address of a lead that cannot be read. -/
def FailsLate (c : TableCall) (now : Calendar.Stamp) (db : Database) (e : Failure)
    (db' : Database) : Prop :=
  match c with
  | subscribe form => Store.RefreshedLate now form db e db'
  | updateLead id fields => Store.RevisedLate now id fields db e db'
  | updateStage id stage => Store.RevisedLate now id [("pipeline_stage", stage)] db e db'
  | _ => False

/-- The values that an update gives, if it is one, fit the fields of a lead. -/
def Fitting : TableCall → Prop
  | updateLead _ fields => LeadRow.Fitting fields
  | updateStage _ stage => LeadRow.Fitting [("pipeline_stage", stage)]
  | _ => True

theorem fails (c : TableCall) (s : Surroundings σ) :
    Fails s c.act (c.FailsLate s.databaseClock) := by
  cases c with
  | saveFunnel draft => exact .map' (Store.saveFunnel_allOrNothing draft)
  | deleteFunnel id => exact .map' (Store.deleteFunnel_allOrNothing id)
  | createExecution draft => exact .map' (Store.createExecution_allOrNothing draft)
  | updateExecution id p => exact .map' (Store.updateExecution_allOrNothing id p)
  | saveTemplate draft => exact .map' (Store.saveTemplate_allOrNothing draft)
  | subscribe form => exact .map' (Store.subscribe_fails form)
  | updateLead id fields => exact .map' (Store.updateLead_fails id fields)
  | updateStage id stage => exact .map' (Store.updateStage_fails id stage)
  | addTag id tag => exact .map' (Store.addTag_allOrNothing id tag)
  | deleteLead id => exact .map' (Store.deleteLead_allOrNothing id)

theorem not_failsLate {c : TableCall} {now : Calendar.Stamp} {e : Failure} {db' : Database}
    (hc : c.Fitting) (hloads : ∀ r ∈ db.leads, ∃ l, r.load = .ok l) :
    ¬ c.FailsLate now db e db' := by
  intro h
  cases c with
  | updateLead id fields => exact h.not_fitting hloads hc
  | updateStage id stage => exact h.not_fitting hloads hc
  | subscribe form =>
    obtain ⟨r, hr, hnot⟩ := h.not_loadable
    obtain ⟨l, hl⟩ := hloads r hr
    exact hnot l hl
  | _ => exact h

/-- A call that fails has changed no row of any table, unless it fails late; and it does not fail
late if the values of an update fit the fields of a lead, and all leads could be read. -/
theorem failed_spares_rows (c : TableCall) (s : Surroundings σ) (w : World σ) (e : Failure)
    (h : (c.act.run s w).1 = .error e) :
    ((c.act.run s w).2.database = w.database ∨
        c.FailsLate s.databaseClock w.database e (c.act.run s w).2.database) ∧
      (c.Fitting → (∀ r ∈ w.database.leads, ∃ l, r.load = .ok l) →
        (c.act.run s w).2.database = w.database) := by
  have hfails := c.fails s w e h
  exact ⟨hfails, fun hc hloads => hfails.resolve_right (not_failsLate hc hloads)⟩

end TableCall

/-! ## A number for a tag -/

namespace WrongTag

def surroundings : Surroundings Unit := .calm (.ahead 0 0) (.usual .utc 2)

/-- Ada has subscribed. -/
def world : World Unit :=
  { World.fresh () with database := ⟨[], [], [Newsletter.leadRow], []⟩ }

/-- Her address is nothing that an update may change. -/
def readdress : TableCall :=
  .updateLead Newsletter.leadRow.id [("email", .str "ada@example.org")]

/-- A tag that is no text. -/
def retag : TableCall := .updateLead Newsletter.leadRow.id [("tags", .arr [.int 1])]

theorem readdress_fails :
    (readdress.act.run surroundings world).1 = .error (.lockedFields "lead" ["email"]) := by
  have hunknown : LeadRow.unknownKeys [("email", .str "ada@example.org")] = ["email"] := by
    simp [LeadRow.unknownKeys, LeadRow.updatable]
  rw [readdress, TableCall.act, run_map, Store.updateLead_eq, guarded, relayed_of_none rfl, run_map,
    Store.revise, hunknown]
  rfl

theorem readdress_fitting : readdress.Fitting := by
  constructor <;> simp [Json.Fields.get?_cons]

theorem world_loads : ∀ r ∈ world.database.leads, ∃ l, r.load = .ok l :=
  List.forall_mem_singleton.mpr ⟨_, rfl⟩

/-- The call fails, and Ada is as she was. -/
theorem not_readdressed :
    (readdress.act.run surroundings world).1 = .error (.lockedFields "lead" ["email"]) ∧
      (readdress.act.run surroundings world).2.database = world.database :=
  ⟨readdress_fails, (TableCall.failed_spares_rows readdress surroundings world _ readdress_fails).2
    readdress_fitting world_loads⟩

/-- The call fails too, but the tag is in the row, and no lead can be listed any more. -/
theorem retagged :
    (∃ e, (retag.act.run surroundings world).1 = .error e) ∧
      (retag.act.run surroundings world).2.database.leads ≠ world.database.leads ∧
      ∃ e, ((Store.listLeads none).run surroundings (retag.act.run surroundings world).2).1
        = .error e := by
  have htags : (retag.act.run surroundings world).2.database.leads.map (·.tags.length) = [1] := by
    decide +kernel
  refine ⟨exists_eq_error_iff.mpr (by decide +kernel), fun h => ?_,
    exists_eq_error_iff.mpr (by decide +kernel)⟩
  rw [h] at htags
  exact absurd htags (by decide)

end WrongTag

end Nurture
