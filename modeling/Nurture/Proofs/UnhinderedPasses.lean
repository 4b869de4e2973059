import Nurture.Proofs.Isolation
import Nurture.Proofs.PassRows

/-!
  Passes that nothing comes in the way of

  At a time that can be compared, such a pass drives every row that is due. What it makes of the
  table, and what its log says, follows row by row from what driving makes of each execution
  (`PassRun.Unhindered.rows`); the funnel and the lead of an execution are those of the tables that
  the pass begins with. So where it is known what driving each of them comes to by itself
  (`Drives`), it is known what the pass comes to, the messages included
  (`PassRun.Unhindered.drives`). A pass that finds nothing due, or whose time cannot be compared,
  does nothing (`PassRun.idle`, `PassRun.idle_of_local`).
-/

namespace Nurture

open Nurture.Action

variable {σ : Type} {s : Surroundings σ} {now : Calendar.Stamp} {p : PassRun σ}

/-- Nothing comes in the way of the pass but what comes in the way of handlers, its time can be
compared, and rows can be dated. -/
structure PassRun.Unhindered (p : PassRun σ) : Prop where
  calls : ∀ c o, c ≠ .runNode → c ≠ .getTemplate → (p.surroundings.interrupt c o).1 = none
  clock : Calendar.inRange p.surroundings.databaseClock.instant = true
  aware : p.now.isLocal = false

namespace PassRun.Unhindered

theorem steady (h : p.Unhindered) : Steady p.surroundings := by
  intro c o i hi
  by_cases hrun : c = .runNode
  · exact .inl hrun
  · by_cases hget : c = .getTemplate
    · exact .inr (.inl hget)
    · rw [h.calls c o hrun hget] at hi
      cases hi

theorem update_none (h : p.Unhindered) (o : σ) :
    (p.surroundings.interrupt .updateExecution o).1 = none :=
  h.calls _ o (by decide) (by decide)

/-- What driving makes of each row that is due, with the funnel and the lead of the tables, the pass
makes of it. -/
theorem rows (h : p.Unhindered) (hk : p.before.database.Keyed) (hl : p.before.database.Loadable)
    {P : ExecutionRow → Drive → ExecutionRow → Prop}
    (hlogs : ∀ r ∈ p.before.database.due p.now, ∀ e, r.load = .ok e → ∀ due funnels leads,
      ReadsDue p.now p.before.database due funnels leads →
      (funnels.find? fun f => f.id == e.funnelId) = p.before.database.funnel? r.funnelId →
      (leads.find? fun l => l.id == e.leadId) = p.before.database.lead? r.leadId →
      Logs p.surroundings p.now funnels leads p.before.database.templates P r e) :
    ∃ g, Replaced p.before.database (p.before.database.waitingRows.filter (·.isDue p.now)) g
        p.after.database ∧
      List.Forall₂ (fun r d => P r d (g r))
        (p.before.database.waitingRows.filter (·.isDue p.now))
        (passLog p.now p.surroundings p.before) := by
  obtain ⟨due, funnels, leads, w₁, hreads⟩ := readDue_known hl h.steady h.aware
  have hdue : ∀ r ∈ p.before.database.waitingRows.filter (·.isDue p.now),
      r ∈ p.before.database.due p.now := fun r hr =>
    p.before.database.waitingRows_due_perm.mem_iff.mp hr
  refine passLog_rows_of_reads hk hreads.run
    (fun r hr => (Database.mem_due.mp (hdue r hr)).1) hk.nodup_due ?_
  refine (List.forall₂_and_left _ _ |>.mpr ⟨fun r hr => hr, hreads.load_due⟩).imp ?_
  rintro r e ⟨hr, he⟩
  have hne : due ≠ [] := by
    rintro rfl
    have hnone := hreads.load_due.length_eq
    exact List.ne_nil_of_mem hr (List.length_eq_zero_iff.mp hnone)
  obtain ⟨-, hfunnelId, hleadId⟩ := ExecutionRow.ids_of_load he
  refine hlogs r (hdue r hr) e he due funnels leads (readDue_reads hk hreads.run) ?_ ?_
  · rw [hfunnelId]
    exact hreads.find?_funnel hne _
  · rw [hleadId]
    exact hreads.find?_lead hne _

end PassRun.Unhindered

theorem PassRun.rowAfter_of_replaced (hk : p.before.database.Keyed) {rows : List ExecutionRow}
    {g : ExecutionRow → ExecutionRow}
    (hreplaced : Replaced p.before.database rows g p.after.database) {r : ExecutionRow}
    (hr : r ∈ p.before.database.executions) : p.rowAfter r.id = some (g r) := by
  rw [PassRun.rowAfter, hreplaced.find?_eq, hk.find?_id hr, Option.map_some]

/-! ## What driving comes to by itself -/

/-- Wherever the row is kept among these templates, driving its execution attempts the messages and
makes of the row what is admitted. -/
def Drives (s : Surroundings σ) (now : Calendar.Stamp) (templates : List TemplateRow)
    (funnel : Option Funnel) (lead : Option Lead) (tried : List Attempt)
    (Q : ExecutionRow → Prop) (r : ExecutionRow) (e : Execution) : Prop :=
  ∀ w : World σ, w.database.Keyed → r ∈ w.database.executions → w.database.templates = templates →
    ∃ answer r', (processExecution e funnel lead now).EndsWith s w answer (w.attempts ++ tried)
      (w.database.change r.id fun _ => r') ∧ r'.id = r.id ∧ Q r'

section
variable {templates : List TemplateRow} {funnels : List Funnel} {leads : List Lead}
  {r : ExecutionRow} {e : Execution}

theorem Drives.logs {tried : List Attempt} {Q : ExecutionRow → Prop}
    (h : Drives s now templates (funnels.find? fun f => f.id == e.funnelId)
      (leads.find? fun l => l.id == e.leadId) tried Q r e) :
    Logs s now funnels leads templates (fun _ d r' => d.attempts = tried ∧ Q r') r e := by
  intro w hk hr htemplates
  obtain ⟨answer, r', ⟨w', hrun, hattempts, hdb⟩, hid, hQ⟩ := h w hk hr htemplates
  obtain ⟨d, -, hsame, -⟩ := run_processDue funnels leads now s e w
  rw [hrun] at hsame
  refine ⟨r', hsame.trans hdb, hid, ?_, hQ⟩
  have hlog := attempts_processExecution e (funnels.find? fun f => f.id == e.funnelId)
    (leads.find? fun l => l.id == e.leadId) now s w
  rw [hrun] at hlog
  exact List.append_cancel_left (hlog.symm.trans hattempts)

end

namespace PassRun

/-- A pass drives each row that is due as it would be driven by itself. -/
theorem Unhindered.drives (h : p.Unhindered) (hk : p.before.database.Keyed)
    (hl : p.before.database.Loadable) {tried : ExecutionRow → List Attempt}
    {Q : ExecutionRow → ExecutionRow → Prop}
    (hdrives : ∀ r ∈ p.before.database.due p.now, ∀ e, r.load = .ok e →
      Drives p.surroundings p.now p.before.database.templates
        (p.before.database.funnel? r.funnelId) (p.before.database.lead? r.leadId) (tried r) (Q r)
        r e) :
    ∃ g, p.after.database = p.before.database.mapRows g ∧ p.after.database.Keyed ∧
      (∀ r ∈ p.before.database.due p.now, Q r (g r)) ∧
      ∃ new, p.after.attempts = p.before.attempts ++ new ∧
        new.Perm ((p.before.database.due p.now).flatMap tried) := by
  obtain ⟨g, hreplaced, hlog⟩ := h.rows hk hl (P := fun r d r' => d.attempts = tried r ∧ Q r r')
    fun r hr e he due funnels leads _ hfunnel hlead =>
      Drives.logs (by rw [hfunnel, hlead]; exact hdrives r hr e he)
  have hperm : (p.before.database.waitingRows.filter (·.isDue p.now)).Perm
      (p.before.database.due p.now) := p.before.database.waitingRows_due_perm
  refine ⟨g, hreplaced.database, hreplaced.keyed hk, fun r hr => ?_, _,
    attempts_processExecutions p.now p.surroundings p.before, ?_⟩
  · obtain ⟨d, -, -, hQ⟩ := exists_mem_of_forall₂ hlog (hperm.mem_iff.mpr hr)
    exact hQ
  · have hattempts : (passLog p.now p.surroundings p.before).flatMap Drive.attempts
        = (p.before.database.waitingRows.filter (·.isDue p.now)).flatMap tried := by
      rw [List.flatMap_def, List.flatMap_def,
        map_eq_map_of_forall₂ hlog fun _ _ hd => hd.1.symm]
    rw [hattempts]
    exact hperm.flatMap_right tried

/-- A pass at which nothing is due does nothing. -/
theorem idle (hk : p.before.database.Keyed)
    (hidle : ∀ r ∈ p.before.database.executions, r.isDue p.now = false) :
    p.after.database = p.before.database ∧ p.after.attempts = p.before.attempts := by
  obtain ⟨rows, g, hdue, -, hreplaced, hlog⟩ := passLog_rows (P := fun _ _ _ => True) p.now
    p.surroundings hk fun _ _ _ hreads r e hload =>
      (hreads.proceeded hload p.before.database.templates).mono fun _ _ _ => trivial
  obtain rfl : rows = [] := by
    refine List.eq_nil_iff_forall_not_mem.mpr fun r hr => ?_
    obtain ⟨hmem, hisDue⟩ := Database.mem_due.mp (hdue r hr)
    rw [hidle r hmem] at hisDue
    cases hisDue
  have hg : g = id := funext fun r => hreplaced.untouched r (List.not_mem_nil)
  have hnone : passLog p.now p.surroundings p.before = [] := List.forall₂_nil_left_iff.mp hlog
  refine ⟨?_, ?_⟩
  · show p.after.database = _
    rw [PassRun.after, hreplaced.database, hg, Database.mapRows, List.map_id]
  · rw [PassRun.after, attempts_processExecutions, hnone, List.flatMap_nil, List.append_nil]

theorem idle_of_local (hs : Steady p.surroundings) (hk : p.before.database.Keyed)
    (hl : p.before.database.Loadable) (hlocal : p.now.isLocal = true) :
    p.after.database = p.before.database ∧ p.after.attempts = p.before.attempts := by
  by_cases hwaits : ∃ r ∈ p.before.database.executions, r.status = Status.waiting.name
  · obtain ⟨r, hr, hstatus⟩ := hwaits
    obtain ⟨w₁, hread⟩ := readDue_local hl hs hlocal hr hstatus
    obtain ⟨hdb, hattempts⟩ := (readDue_quiet p.surroundings p.now).same_of_run hread
    rw [PassRun.after, processExecutions_eq, run_bind_error hread]
    exact ⟨hdb, hattempts⟩
  · refine idle hk fun r hr => ?_
    cases hdue : r.isDue p.now with
    | false => rfl
    | true => exact absurd ⟨r, hr, (ExecutionRow.isDue_eq_true_iff.mp hdue).1⟩ hwaits

end PassRun

end Nurture
