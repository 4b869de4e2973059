import Nurture.Proofs.AcceptedMessages
import Nurture.Proofs.StockFunnel

/-!
  The stock funnel is kept

  Where nothing comes in the way, a template is kept whose texts can be kept
  (`Store.saveTemplate_puts`), and so is a funnel that gets a new identifier
  (`Store.saveFunnel_adds`). With that, creating the stock funnel leaves it as the only funnel, if
  there was none, with its template beside it, and touches nothing else (`Stock.run_create`).
-/

namespace Nurture

open Nurture.Action

variable {σ : Type} {s : Surroundings σ} {w : World σ}

/-- A template is kept, in the place of the one with its identifier. -/
theorem Store.saveTemplate_puts (hs : s.Obliging) (id : String) (make : String → Template)
    (hid : Text.isWhole (make id).id = true) (htexts : (make id).checkTexts = .ok ()) :
    ∃ row : TemplateRow, row.template = make id ∧
      (saveTemplate ⟨some id, make⟩ : Action σ _).EndsWith s w (.ok (.own (make id))) w.attempts
        { w.database with templates := putRow (·.template.id) row w.database.templates } := by
  obtain ⟨row, hrow, hkept⟩ : ∃ row : TemplateRow, row.template = make id ∧
      templateToWrite (w.database.templates.find? fun r => r.template.id == (make id).id) (make id)
        s.databaseClock = .ok row := by
    have htime : writingTime s.databaseClock = .ok _ := if_pos hs.databaseClock
    unfold templateToWrite
    rw [htexts]
    cases w.database.templates.find? fun r => r.template.id == (make id).id with
    | some held => exact ⟨⟨make id, held.createdAt⟩, rfl, rfl⟩
    | none => exact ⟨⟨make id, _⟩, rfl, by rw [htime]; rfl⟩
  refine ⟨row, hrow, hs.guarded fun o => ?_⟩
  have hheld : (templateRow? (make id).id).run s { w with outside := o }
      = (.ok (w.database.templates.find? fun r => r.template.id == (make id).id),
          { w with outside := o }) := by
    rw [run_templateRow?, Column.whole_eq_ok hid]
    rfl
  unfold EndsWith
  dsimp only
  rw [run_bind_ok (run_pure id s _), run_bind_ok hheld, run_bind_ok (run_databaseClock s _), hkept]
  exact ⟨_, rfl, rfl, rfl⟩

/-- A funnel is kept as the only one where there was none. -/
theorem Store.saveFunnel_adds (hs : s.Obliging) {draft : Draft Funnel} {f : Funnel}
    (hf : savedAs draft w.issued = f) (hproper : f.Proper) (hid : Text.isWhole f.id = true)
    (hdump : f.isDumpable = true) (hempty : w.database.funnels = []) :
    ∃ createdAt, (saveFunnel draft : Action σ _).EndsWith s w (.ok (.own f)) w.attempts
      { w.database with funnels := [f.toRow createdAt] } := by
  have hkept : w.database.keeping f s.databaseClock = .ok _ :=
    Database.keeping_of_new hproper hid hdump hs.databaseClock (by simp [hempty])
  subst hf
  have hattempts := (saveFunnel_spares draft : Takes _ s _) w |>.attempts_eq
  rcases saveFunnel_of_none draft (hs.calls .saveFunnel w.outside) with ⟨e, herror, -⟩ |
    ⟨db, -, hown⟩
  · cases hkept.symm.trans herror
  · rcases saveFunnel_cases draft s w with ⟨db', hdb', hreply, hdb⟩ | ⟨hforeign, -⟩
    · obtain rfl := Except.ok.inj (hkept.symm.trans hdb')
      rw [Database.putFunnel, hempty] at hdb
      exact ⟨_, _, Prod.ext hreply rfl, hattempts, hdb⟩
    · exact absurd hown (hforeign _)

namespace Stock

variable (naming : Naming) (k : Nat)

/-- The stock funnel under an identifier. -/
abbrev kept (id : String) : Funnel := (draft naming k).withId id

/-- What creating the stock funnel leaves in empty tables of funnels. -/
structure Created (naming : Naming) (k : Nat) (f : Funnel) (db db' : Database) : Prop where
  whole : Text.isWhole f.id = true
  funnel : ∃ createdAt, db'.funnels = [f.toRow createdAt]
  template : ∃ row : TemplateRow, row.template = template (naming.name .stock (k + 1)) ∧
    (db'.templates.find? fun r => r.template.id == naming.name .stock (k + 1)) = some row
  executions_eq : db'.executions = db.executions
  leads_eq : db'.leads = db.leads

theorem template_checkTexts (id : String) : (template id).checkTexts = .ok () := by
  have hwhole : Text.isWhole (template "").title = true ∧
      Text.isWhole (template "").content = true ∧ Text.isWhole (template "").kind = true := by
    decide +kernel
  rw [Template.checkTexts, Column.whole_eq_ok (s := (template id).title) hwhole.1,
    Column.whole_eq_ok (s := (template id).content) hwhole.2.1,
    Column.whole_eq_ok (s := (template id).kind) hwhole.2.2]
  rfl

/-- The world after an identifier of the stock was given out. -/
def drawn (w : World σ) : World σ :=
  { w with issued := { w.issued with stock := w.issued.stock + 1 } }

theorem run_issueId :
    (issueId : Action σ _).run s w = (.ok (w.issued.naming.name .stock (w.issued.stock + 1)),
      drawn w) :=
  rfl

/-- The stock funnel is kept, with its template. -/
theorem run_create (hs : s.Obliging) (hempty : w.database.funnels = []) :
    ∃ id w', (create : Action σ _).run s w = (.ok (kept w.issued.naming w.issued.stock id), w') ∧
      w'.attempts = w.attempts ∧
      Created w.issued.naming w.issued.stock (kept w.issued.naming w.issued.stock id) w.database
        w'.database := by
  obtain ⟨row, hrow, w₁, hsaved, hattempts₁, hdb₁⟩ := Store.saveTemplate_puts (w := drawn w) hs
    (w.issued.naming.name .stock (w.issued.stock + 1)) template (w.issued.naming.whole _ _)
    (template_checkTexts _)
  obtain ⟨-, hissued⟩ := Store.saveTemplate_own hsaved
  have hempty₁ : w₁.database.funnels = [] := by
    rw [hdb₁]
    exact hempty
  have hdraft : (⟨none, funnel (template (w.issued.naming.name .stock (w.issued.stock + 1))).id
      (w₁.issued.naming.name .stock (w₁.issued.stock + 1))
      ((drawn w₁).issued.naming.name .stock ((drawn w₁).issued.stock + 1))
      ((drawn (drawn w₁)).issued.naming.name .stock ((drawn (drawn w₁)).issued.stock + 1))⟩ :
        Draft Funnel) = draft w.issued.naming w.issued.stock := by
    unfold drawn
    rw [hissued]
    rfl
  obtain ⟨id, hsavedAs, hwhole⟩ : ∃ id, Store.savedAs (draft w.issued.naming w.issued.stock)
      (drawn (drawn (drawn w₁))).issued = kept w.issued.naming w.issued.stock id ∧
        Text.isWhole id = true :=
    ⟨_, rfl, w₁.issued.naming.whole _ _⟩
  obtain ⟨createdAt, w₂, hkept, hattempts₂, hdb₂⟩ := Store.saveFunnel_adds hs hsavedAs
    (draft_proper _ _ _) hwhole rfl (hempty₁ : w₁.database.funnels = [])
  obtain ⟨w', hrun, hattempts', hdb'⟩ : (create : Action σ _).EndsWith s w
      (.ok (kept w.issued.naming w.issued.stock id)) w₂.attempts w₂.database := by
    unfold create EndsWith
    rw [run_bind_ok run_issueId, run_bind_ok hsaved, run_bind_ok run_issueId,
      run_bind_ok run_issueId, run_bind_ok run_issueId, Reply.map, identified,
      run_bind_ok (run_ofExcept _ s _)]
    dsimp only
    rw [hdraft, run_bind_ok hkept]
    exact ⟨_, rfl, rfl, rfl⟩
  have hdb : w'.database = { w₁.database with
      funnels := [(kept w.issued.naming w.issued.stock id).toRow createdAt] } := hdb'.trans hdb₂
  refine ⟨id, w', hrun, (hattempts'.trans hattempts₂).trans hattempts₁, hwhole,
    ⟨createdAt, by rw [hdb]⟩, ⟨row, hrow, ?_⟩, ?_, ?_⟩
  · have hid : w.issued.naming.name .stock (w.issued.stock + 1) = row.template.id := by
      rw [hrow]
      rfl
    rw [hdb, hdb₁, hid]
    exact find?_putRow
  · rw [hdb, hdb₁]
    rfl
  · rw [hdb, hdb₁]
    rfl

end Stock

end Nurture
