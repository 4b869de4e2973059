import Nurture.Proofs.PassLog

/-!
  The row of an execution in a pass

  `Proceeded` says what a pass makes of the row of one execution, next to the nodes that its
  log tells of: the row is let alone, or its execution is ended since its funnel or its
  lead is gone, or it walked through its funnel, and the row records what the walk came to.
  Every pass does one of these to every row (`PassRun.proceeded`), whatever surrounds it.
-/

namespace Nurture

variable {σ : Type} {s : Surroundings σ} {f : Funnel} {now : Calendar.Stamp} {w : World σ}
  {r r' : ExecutionRow} {e : Execution}

/-- What a pass made of a row, and the nodes that it ran for the execution. -/
inductive Proceeded (s : Surroundings σ) (now : Calendar.Stamp) (rows : List FunnelRow)
    (r : ExecutionRow) : List Visit → ExecutionRow → Prop
  | idle : Proceeded s now rows r [] r
  /-- Its funnel or its lead is gone. -/
  | orphaned {e : Execution} (hdue : r.isDue now = true) (hload : r.load = .ok e) :
      Proceeded s now rows r [] (r.ended
        (e.history ++ [historyEntry (e.currentNodeId.getD "") none "orphaned" now []]))
  /-- It walked through its funnel. -/
  | walked {row : FunnelRow} {f : Funnel} {e : Execution} {lead : Lead} {visits : List Visit}
      {outcome : Except Failure (Journey × List Json.Fields)} {answer : Except Failure Departure}
      {r' : ExecutionRow} (hdue : r.isDue now = true) (hload : r.load = .ok e) (hrow : row ∈ rows)
      (hid : row.id = r.funnelId) (hf : row.load = .ok f)
      (hwalked : Walked f ⟨e, lead, now⟩ s.policy e.history outcome)
      (htrail : Trail f ⟨e, lead, now⟩ s.policy r.currentNodeId visits (outcome.map (·.1)))
      (hsettled : Settled s now r outcome answer r') : Proceeded s now rows r visits r'

theorem Proceeded.ids_eq {rows : List FunnelRow} {visits : List Visit}
    (h : Proceeded s now rows r visits r') : r'.id = r.id ∧ r'.funnelId = r.funnelId := by
  cases h with
  | idle | orphaned => exact ⟨rfl, rfl⟩
  | walked hdue hload hrow hid hf hwalked htrail hsettled => cases hsettled <;> exact ⟨rfl, rfl⟩

/-! ## Driving one execution -/

section
variable {rows : List FunnelRow} (hk : w.database.Keyed) (hr : r ∈ w.database.executions)
  (hload : r.load = .ok e) (hdue : r.isDue now = true)
include hk hr hload hdue

variable (s rows) in
/-- Driving an execution that is due proceeds, if its funnel is read from one of the rows. -/
theorem processExecution_proceeded {funnel : Option Funnel} (lead : Option Lead)
    (hf : ∀ f, funnel = some f → ∃ row ∈ rows, row.id = r.funnelId ∧ row.load = .ok f) :
    (processExecution e funnel lead now).Makes s w r fun _ r' =>
      Proceeded s now rows r (driveVisits e funnel lead now s w) r' := by
  have horphan : (funnel = none ∨ lead = none) →
      (processExecution e funnel lead now).Makes s w r
        fun _ r' => Proceeded s now rows r [] r' := by
    intro hgone
    obtain ⟨answer, w', r', hrun, hdb, -, hr'⟩ :=
      processExecution_orphaned s now hk hr hload hgone
    refine ⟨answer, w', r', hrun, hdb, ?_⟩
    rcases hr' with rfl | rfl
    · exact .idle
    · exact .orphaned hdue hload
  cases funnel with
  | none => exact horphan (.inl rfl)
  | some f =>
    cases lead with
    | none => exact horphan (.inr rfl)
    | some lead =>
      obtain ⟨row, hrow, hid, hrowload⟩ := hf f rfl
      obtain ⟨answer, w', r', hrun, hdb, hsettled⟩ := processExecution_settled s now hk hr lead
        hload (FunnelRow.validated_of_load hrowload)
      obtain ⟨hwalked, -⟩ := @walk_walked σ s f ⟨e, lead, now⟩ s.policy.bound 0 e.currentNodeId
        e.history w
      obtain ⟨htrail, -⟩ := walk_trail f ⟨e, lead, now⟩ s s.policy.bound 0 e.currentNodeId
        e.history w
      have hnode : e.currentNodeId = r.currentNodeId := by
        obtain ⟨status, history, -, -, rfl⟩ := ExecutionRow.load_eq_ok_iff.mp hload
        rfl
      rw [hnode] at htrail
      refine ⟨answer, w', r', hrun, hdb, ?_⟩
      exact .walked hdue hload hrow hid hrowload hwalked (hnode ▸ htrail) hsettled

end

/-! ## Passes -/

theorem ReadsDue.exists_row {db : Database} {due : List Execution} {funnels : List Funnel}
    {leads : List Lead} (h : ReadsDue now db due funnels leads) {funnelId : String}
    (hfound : (funnels.find? fun f => f.id == funnelId) = some f) :
    ∃ row ∈ db.funnels, row.id = funnelId ∧ row.load = .ok f := by
  have hmem : f ∈ funnels := List.mem_of_find?_eq_some hfound
  have hid : f.id = funnelId := by simpa using List.find?_some hfound
  rcases h.funnels with hnone | hloads
  · rw [hnone] at hmem
    cases hmem
  · obtain ⟨row, hrow, hload⟩ := exists_mem_of_forall₂ hloads.flip hmem
    exact ⟨row, mem_inOrder.mp hrow, (FunnelRow.id_of_load hload).symm.trans hid, hload⟩

/-- What a pass reads lets every execution that is due proceed. -/
theorem ReadsDue.proceeded {db : Database} {due : List Execution} {funnels : List Funnel}
    {leads : List Lead} (h : ReadsDue now db due funnels leads) (hload : r.load = .ok e)
    (templates : List TemplateRow) :
    Logs s now funnels leads templates (fun r d r' => d.execution.id = r.id ∧
      (r.isDue now = true → Proceeded s now db.funnels r d.visits r')) r e := by
  obtain ⟨hid, hfunnelId, -⟩ := ExecutionRow.ids_of_load hload
  intro w hk hr _
  obtain ⟨d, -, hsame, -⟩ := run_processDue funnels leads now s e w
  by_cases hdue : r.isDue now = true
  · obtain ⟨answer, w', r', hrun, hdb, hproceeded⟩ := processExecution_proceeded s db.funnels hk hr
      hload hdue (leads.find? fun l => l.id == e.leadId)
      fun f hfound => hfunnelId ▸ h.exists_row hfound
    rw [hrun] at hsame
    exact ⟨r', hsame.trans hdb, hproceeded.ids_eq.1, hid, fun _ => hproceeded⟩
  · obtain ⟨answer, w', r', hrun, hdb, hdrove⟩ := @processExecution_drove σ s w r now hk hr e _
      (leads.find? fun l => l.id == e.leadId) hload
      fun f hfound => h.validated f (List.mem_of_find?_eq_some hfound)
    rw [hrun] at hsame
    exact ⟨r', hsame.trans hdb, hdrove.id_eq, hid, fun h => absurd h hdue⟩

namespace PassRun

variable {p : PassRun σ} {id : String}

/-- Whatever surrounds a pass: the execution is not there, and no node is run for it, or its row
proceeds. -/
theorem proceeded (hk : p.before.database.Keyed) (id : String) :
    (p.rowBefore id = none ∧ p.rowAfter id = none ∧ p.visits id = []) ∨
      ∃ r r', p.rowBefore id = some r ∧ p.rowAfter id = some r' ∧
        Proceeded p.surroundings p.now p.before.database.funnels r (p.visits id) r' := by
  obtain ⟨rows, g, hdue, hnodup, hreplaced, hlog⟩ := passLog_rows p.now p.surroundings hk
    fun _ _ _ hreads _ _ hload => hreads.proceeded hload p.before.database.templates
  have hrows : ∀ r ∈ rows, r ∈ p.before.database.executions := fun r hr =>
    (Database.mem_due.mp (hdue r hr)).1
  have hafter : p.rowAfter id = (p.rowBefore id).map g := hreplaced.find?_eq id
  cases hbefore : p.rowBefore id with
  | none =>
    refine .inl ⟨rfl, by rw [hafter, hbefore]; rfl, visitsFor_of_absent hlog fun hmem => ?_⟩
    obtain ⟨r, hr, hrid⟩ := List.mem_map.mp hmem
    have hno := List.find?_eq_none.mp hbefore r (hrows r hr)
    simp [hrid] at hno
  | some r =>
    have hr : r ∈ p.before.database.executions := List.mem_of_find?_eq_some hbefore
    have hrid : r.id = id := by simpa using List.find?_some hbefore
    refine .inr ⟨r, g r, rfl, by rw [hafter, hbefore]; rfl, ?_⟩
    by_cases hmem : r ∈ rows
    · obtain ⟨d, -, hvisits, hproceeded⟩ := visitsFor_of_mem hlog hnodup hmem
      rw [hrid] at hvisits
      rw [visits, hvisits]
      exact hproceeded (Database.mem_due.mp (hdue r hmem)).2
    · -- the execution was not driven
      have habsent : r.id ∉ rows.map (·.id) := by
        intro h
        obtain ⟨r₀, hr₀, hid₀⟩ := List.mem_map.mp h
        exact hmem (hk.eq_of_id (hrows r₀ hr₀) hr hid₀ ▸ hr₀)
      have hvisits := visitsFor_of_absent hlog habsent
      rw [hrid] at hvisits
      rw [visits, hvisits, hreplaced.untouched r habsent]
      exact .idle

end PassRun

end Nurture
