import Nurture.Proofs.EngineFrame
import Nurture.Proofs.LeadTable
import Nurture.Proofs.Operations

/-!
  Numbers of leads

  A lead that joins the directory gets a number that was not given out before (`World.Joined`), so
  an identifier that was given out and is no lead's any more is no lead's ever after
  (`World.Vacant`). Calls about funnels and templates, triggers and passes leave the leads as they
  are.
-/

namespace Nurture

open Nurture.Action Nurture.Action.Takes

variable {σ : Type} {s : Surroundings σ} {w w' : World σ}

/-! ## Leads that stay what they are -/

/-- The leads and their numbers are what they were. -/
structure World.SameLeads (w w' : World σ) : Prop where
  leads_eq : w'.database.leads = w.database.leads
  naming_eq : w'.issued.naming = w.issued.naming
  issued_eq : w'.issued.leads = w.issued.leads

instance : Tolerant (World.SameLeads (σ := σ)) where
  of_still h _ h' := ⟨congrArg (·.leads) h, congrArg (·.naming) h', congrArg (·.leads) h'⟩

instance : IsTrans (World σ) World.SameLeads where
  trans _ _ _ h h' := ⟨h'.leads_eq.trans h.leads_eq, h'.naming_eq.trans h.naming_eq,
    h'.issued_eq.trans h.issued_eq⟩

theorem World.Aside.sameLeads (h : w.Aside w') : w.SameLeads w' :=
  ⟨h.leads_eq, h.naming_eq, h.issued_leads_eq⟩

namespace Store

theorem saveFunnel_sameLeads (draft : Draft Funnel) :
    Takes World.SameLeads s (saveFunnel draft) := by
  refine guarded' (newId_takes (fun _ => ⟨rfl, rfl, rfl⟩) fun id => ?_)
  refine bind' (funnelRow?_still _).ofStill fun held => bind' databaseClock' fun now => ?_
  refine bind' (ofExcept' _) fun row => ?_
  cases row with
  | some row =>
    exact bind' (modify' fun w => ⟨rfl, rfl, rfl⟩) fun _ => bind' (note' _) fun _ => pure' _
  | none => exact bind' (note' _) fun _ => pure' _

theorem deleteFunnel_sameLeads (id : String) : Takes World.SameLeads s (deleteFunnel id) := by
  refine guarded' (bind' (funnelRow?_still id).ofStill fun row => ?_)
  cases row with
  | some row =>
    exact bind' (modify' fun w => ⟨rfl, rfl, rfl⟩) fun _ => bind' (note' _) fun _ => pure' _
  | none => exact pure' _

theorem saveTemplate_sameLeads (draft : Draft Template) :
    Takes World.SameLeads s (saveTemplate draft) := by
  refine guarded' (newId_takes (fun _ => ⟨rfl, rfl, rfl⟩) fun id => ?_)
  refine bind' (templateRow?_still _).ofStill fun held => bind' databaseClock' fun now => ?_
  refine bind' (ofExcept' _) fun row => ?_
  exact bind' (modify' fun w => ⟨rfl, rfl, rfl⟩) fun _ => bind' (note' _) fun _ => pure' _

end Store

/-! ## Leads that join -/

/-- The identifiers of leads were given out. -/
def World.Numbered (w : World σ) : Prop :=
  ∀ r ∈ w.database.leads, w.issued.HasLead r.id

/-- Every lead was there before, or has a number given out since. -/
structure World.Joined (w w' : World σ) : Prop where
  grows : w.issued.Grows w'.issued
  origin : ∀ r' ∈ w'.database.leads, (∃ r ∈ w.database.leads, r'.id = r.id) ∨
    ∃ n, w.issued.leads < n ∧ n ≤ w'.issued.leads ∧ r'.id = w.issued.naming.name .lead n

/-- The identifier was given out, and no lead has it. -/
structure World.Vacant (w : World σ) (id : String) : Prop where
  given : w.issued.HasLead id
  absent : ∀ r ∈ w.database.leads, r.id ≠ id

theorem World.SameLeads.joined (h : w.SameLeads w') : w.Joined w' :=
  ⟨⟨h.naming_eq, Nat.le_of_eq h.issued_eq.symm⟩, fun r' hr' => .inl ⟨r', h.leads_eq ▸ hr', rfl⟩⟩

theorem World.Numbered.unissued (h : w.Numbered) :
    ∀ r ∈ w.database.leads, r.id ≠ w.issued.nextLead :=
  fun r hr => (h r hr).ne_nextLead

theorem World.Joined.numbered (h : w.Joined w') (hw : w.Numbered) : w'.Numbered := by
  intro r' hr'
  rcases h.origin r' hr' with ⟨r, hr, hid⟩ | ⟨n, -, hn, hid⟩
  · exact hid ▸ (hw r hr).mono h.grows
  · exact ⟨n, hn, h.grows.naming_eq ▸ hid⟩

theorem World.Joined.vacant (h : w.Joined w') {id : String} (hw : w.Vacant id) : w'.Vacant id := by
  obtain ⟨n, hn, hgiven⟩ := hw.given
  refine ⟨hw.given.mono h.grows, fun r' hr' hid => ?_⟩
  rcases h.origin r' hr' with ⟨r, hr, hsame⟩ | ⟨m, hm, -, hm'⟩
  · exact hw.absent r hr (hsame.symm.trans hid)
  · have := w.issued.naming.distinct _ _ _ (hm'.symm.trans (hid.trans hgiven))
    omega

theorem Store.Edited.joined {edits : LeadRow → LeadRow → Prop} {db' : Database} {issued' : Issued}
    (h : Store.Edited edits w.database w.issued db' issued') (hdb : w'.database = db')
    (hissued : w'.issued = issued') : w.Joined w' := by
  cases h with
  | same => exact ⟨hissued ▸ .refl _, fun r' hr' => .inl ⟨r', hdb ▸ hr', rfl⟩⟩
  | @put r r₁ hr hedit hid =>
    refine ⟨hissued ▸ .refl _, fun r' hr' => .inl ?_⟩
    rw [hdb] at hr'
    rcases mem_putRow_iff.mp hr' with rfl | ⟨hr', -⟩
    · exact ⟨r, hr, hid⟩
    · exact ⟨r', hr', rfl⟩

theorem Database.enrolment_id {db : Database} {form : SubscriptionForm} {id : String}
    {now : Calendar.Stamp} {row : LeadRow} (h : db.enrolment form id now = .ok row) :
    row.id = id ∨ ∃ r ∈ db.leads, row.id = r.id := by
  obtain ⟨sub, -, h⟩ := bind_eq_ok_iff.mp h
  obtain ⟨-, -, h⟩ := bind_eq_ok_iff.mp h
  cases hfind : db.leads.find? fun r => r.email == sub.email with
  | none =>
    rw [hfind] at h
    obtain ⟨-, -, -, -, rfl⟩ := LeadRow.ofSubscription_eq_ok_iff.mp h
    exact .inl rfl
  | some held =>
    rw [hfind] at h
    obtain ⟨-, -, -, rfl⟩ := LeadRow.refreshed_eq_ok_iff.mp h
    exact .inr ⟨held, List.mem_of_find?_eq_some hfind, held.refreshedBy_id sub⟩

/-- A subscription refreshes a row, or one with the next number joins. -/
theorem Enrolled.joined {now : Calendar.Stamp} {form : SubscriptionForm}
    {answer : Except Failure (Reply Lead)} {db' : Database} {issued' : Issued}
    (h : Enrolled now form w.database w.issued answer db' issued') (hdb : w'.database = db')
    (hissued : w'.issued = issued') : w.Joined w' := by
  cases h with
  | broke | answered => exact ⟨hissued ▸ .refl _, fun r' hr' => .inl ⟨r', hdb ▸ hr', rfl⟩⟩
  | made h =>
    cases h with
    | refused hgrows => exact ⟨hissued ▸ hgrows, fun r' hr' => .inl ⟨r', hdb ▸ hr', rfl⟩⟩
    | kept hgrows hrow hid =>
      refine ⟨hissued ▸ hgrows, fun r' hr' => ?_⟩
      rw [hdb] at hr'
      rcases mem_putRow_iff.mp hr' with rfl | ⟨hr', -⟩
      · rcases Database.enrolment_id hrow with hnew | hheld
        · exact .inr ⟨_, Nat.lt_succ_self _, hissued ▸ hid hnew, hnew⟩
        · exact .inl hheld
      · exact .inl ⟨r', hr', rfl⟩

theorem Upkeep.joined (hw : w.Numbered) (c : Upkeep) : w.Joined (c.act.run s w).2 := by
  cases c with
  | saveFunnel draft => exact (map' (Store.saveFunnel_sameLeads draft) w).joined
  | deleteFunnel id => exact (map' (Store.deleteFunnel_sameLeads id) w).joined
  | saveTemplate draft => exact (map' (Store.saveTemplate_sameLeads draft) w).joined
  | subscribe form =>
    rw [act, run_map]
    exact (Store.subscribe_cases form hw.unissued).joined rfl rfl
  | updateLead id fields =>
    rw [act, run_map]
    exact (Store.updateLead_cases id fields w).joined rfl rfl
  | updateStage id stage =>
    rw [act, run_map]
    exact (Store.updateStage_cases id stage w).joined rfl rfl
  | addTag id tag =>
    rw [act, run_map]
    exact (Store.addTag_cases id tag w).joined rfl rfl
  | deleteLead id =>
    rw [act, run_map]
    obtain ⟨hdb, hissued⟩ := Store.deleteLead_cases id s w
    refine ⟨hissued ▸ .refl _, fun r' hr' => .inl ⟨r', ?_, rfl⟩⟩
    rcases hdb with hdb | hdb
    · exact hdb ▸ hr'
    · rw [hdb] at hr'
      exact List.mem_of_mem_filter hr'

/-- A lead that was deleted leaves its identifier vacant. -/
theorem Store.deleteLead_vacant {id : String} (hw : w.Numbered)
    (h : (deleteLead id).run s w = (.ok (.own true), w')) : w'.Vacant id := by
  obtain ⟨o, h⟩ := run_guarded_eq_own h
  rw [run_bind, run_leadRow?] at h
  cases hwhole : Column.whole id with
  | error e =>
    rw [hwhole] at h
    cases h
  | ok _ =>
    rw [hwhole] at h
    cases hfind : w.database.leads.find? fun r => r.id == id with
    | none =>
      simp only [Except.map, hfind] at h
      cases h
    | some r =>
      simp only [Except.map, hfind] at h
      cases h
      have hid : r.id = id := by simpa using List.find?_some hfind
      refine ⟨hid ▸ hw r (List.mem_of_find?_eq_some hfind), fun r' hr' => ?_⟩
      simpa using (List.mem_filter.mp hr').2

end Nurture
