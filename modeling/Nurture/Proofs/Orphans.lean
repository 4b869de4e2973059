import Nurture.Proofs.OpenCourses
import Nurture.Proofs.PassRows
import Nurture.Proofs.UnhinderedPasses

/-!
  Executions whose lead or funnel is gone

  A pass runs no node for an execution whose lead or funnel is gone, whatever comes in its way, and
  ends it with an entry that says so if nothing does (`PassRun.drops`). A lead that was deleted does
  not come back, since identifiers are not given out twice, and a funnel only by being saved
  again; so all later passes drop what was left of them (`orphans_get_no_message`).

  The passes are those of a course, which says more than a run of operations does: it could save a
  funnel and delete it before the operation is over. No operation does so. If none of a run leaves
  a funnel under an identifier, no pass of the run finds one there (`World.after_tells`).
-/

namespace Nurture

open Nurture.Action

variable {σ : Type} {s : Surroundings σ} {now : Calendar.Stamp} {p : PassRun σ}

/-! ## Driving an execution whose funnel or lead is gone -/

/-- The history of an execution that is ended since its funnel or its lead is gone. -/
def Execution.orphanedHistory (e : Execution) (now : Calendar.Stamp) : List Json.Fields :=
  e.history ++ [toldUnseen (e.currentNodeId.getD "") "orphaned" now]

section
variable {funnels : List Funnel} {leads : List Lead} {templates : List TemplateRow}
  {r : ExecutionRow} {e : Execution} {w : World σ}

/-- An execution whose funnel or lead is gone is ended. -/
theorem processExecution_ends_orphan {funnel : Option Funnel} {lead : Option Lead}
    (hgone : funnel = none ∨ lead = none) (hk : w.database.Keyed)
    (hr : r ∈ w.database.executions) (hload : r.load = .ok e)
    (hs : ∀ o, (s.interrupt .updateExecution o).1 = none)
    (hclock : Calendar.inRange s.databaseClock.instant = true) :
    (processExecution e funnel lead now).EndsWith s w (.ok .completed) w.attempts
      (w.database.change r.id (·.ended (e.orphanedHistory now))) := by
  obtain ⟨status, history, -, hh, rfl⟩ := ExecutionRow.load_eq_ok_iff.mp hload
  have horphan : (do
      Action.note [.execution r.id r.leadId (.orphaned r.funnelId)]
      completeExecution r.id ((r.toExecution status history).orphanedHistory now)
      return .completed : Action σ Departure).EndsWith s w (.ok .completed) w.attempts
        (w.database.change r.id
          (·.ended ((r.toExecution status history).orphanedHistory now))) := by
    obtain ⟨w₀, hsame, hrest⟩ := noteThenComplete_writes r.id
      [.execution r.id r.leadId (.orphaned r.funnelId)] w
    rw [← hsame.1] at hk hr
    obtain ⟨w₁, hrun, hattempts, hdb⟩ := Store.complete_of_none (s := s) (w := w₀) hk hr hh (hs _)
      hclock
    obtain ⟨w₂, hsame', hx⟩ := hrest _ _ hrun
    exact ⟨w₂, hx, by rw [hsame'.2.1, hattempts, hsame.2.1], by rw [hsame'.1, hdb, hsame.1]; rfl⟩
  cases funnel with
  | none => exact horphan
  | some f =>
    cases lead with
    | none => exact horphan
    | some lead => simp at hgone

theorem driveVisits_of_gone {funnel : Option Funnel} {lead : Option Lead}
    (hgone : funnel = none ∨ lead = none) : driveVisits e funnel lead now s w = [] := by
  cases funnel with
  | none => rfl
  | some f =>
    cases lead with
    | none => rfl
    | some lead => simp at hgone

theorem orphan_logs (hload : r.load = .ok e)
    (hgone : (funnels.find? fun f => f.id == e.funnelId) = none ∨
      (leads.find? fun l => l.id == e.leadId) = none)
    (hs : ∀ o, (s.interrupt .updateExecution o).1 = none)
    (hclock : Calendar.inRange s.databaseClock.instant = true) :
    Logs s now funnels leads templates
      (fun r d r' => d.visits = [] ∧ r' = r.ended (e.orphanedHistory now)) r e := by
  intro w hk hr _
  obtain ⟨w', hrun, -, hdb⟩ := processExecution_ends_orphan hgone hk hr hload hs hclock
  obtain ⟨d, -, hsame, -⟩ := run_processDue funnels leads now s e w
  rw [hrun] at hsame
  refine ⟨r.ended (e.orphanedHistory now), ?_, rfl, driveVisits_of_gone hgone, rfl⟩
  rw [hsame, hdb]
  exact hk.change_congr hr rfl

end

/-! ## Passes -/

/-- The row of its funnel or the row of its lead is gone. -/
def Database.Lacks (db : Database) (funnelId leadId : String) : Prop :=
  (∀ row ∈ db.funnels, row.id ≠ funnelId) ∨ ∀ row ∈ db.leads, row.id ≠ leadId

/-- What the pass makes of executions that are lost, of which it sends no message. -/
structure PassRun.Drops (p : PassRun σ) (lost : String → String → Prop) : Prop where
  /-- No node is run for any of them. -/
  silent : ∀ d ∈ passLog p.now p.surroundings p.before,
    lost d.execution.funnelId d.execution.leadId → d.visits = []
  /-- Those that are due are ended, with an entry that says so, if nothing comes in the way. -/
  ended : p.Unhindered → p.before.database.Loadable → ∀ r ∈ p.before.database.due p.now,
    lost r.funnelId r.leadId →
      ∃ e, r.load = .ok e ∧ p.rowAfter r.id = some (r.ended (e.orphanedHistory p.now))

theorem find?_eq_none_of_loads {α β : Type} {load : α → Except Failure β} {rows : List α}
    {items : List β} {key : α → String} {key' : β → String} {id : String}
    (hkey : ∀ r b, load r = .ok b → key' b = key r)
    (h : items = [] ∨ List.Forall₂ (fun r b => load r = .ok b) rows items)
    (hid : ∀ r ∈ rows, key r ≠ id) : items.find? (fun b => key' b == id) = none := by
  rcases h with rfl | h
  · rfl
  · rw [List.find?_eq_none]
    intro b hb
    obtain ⟨r, hr, hload⟩ := exists_mem_of_forall₂ h.flip hb
    rw [hkey r b hload]
    simpa using hid r hr

theorem ReadsDue.find?_eq_none {db : Database} {due : List Execution} {funnels : List Funnel}
    {leads : List Lead} (h : ReadsDue now db due funnels leads) {funnelId leadId : String}
    (hlacks : db.Lacks funnelId leadId) :
    (funnels.find? fun f => f.id == funnelId) = none ∨
      (leads.find? fun l => l.id == leadId) = none := by
  refine hlacks.imp (fun hfunnels => ?_) fun hleads => ?_
  · exact find?_eq_none_of_loads (fun _ _ => FunnelRow.id_of_load) h.funnels
      fun row hrow => hfunnels row (mem_inOrder.mp hrow)
  · exact find?_eq_none_of_loads (fun _ _ => LeadRow.id_of_load) h.leads
      fun row hrow => hleads row (mem_inOrder.mp hrow)

/-- A pass drops the executions whose funnel or lead is gone. -/
theorem PassRun.drops (hk : p.before.database.Keyed) {lost : String → String → Prop}
    (hlacks : ∀ funnelId leadId, lost funnelId leadId → p.before.database.Lacks funnelId leadId) :
    p.Drops lost where
  silent := by
    intro d hd hlost
    unfold passLog at hd
    rcases hread : (readDue p.now).run p.surroundings p.before with
      ⟨e | ⟨due, funnels, leads⟩, w₁⟩
    · rw [hread] at hd
      cases hd
    · rw [hread] at hd
      obtain ⟨e, -, w', rfl⟩ := mem_driveLog hd
      exact driveVisits_of_gone ((readDue_reads hk hread).find?_eq_none (hlacks _ _ hlost))
  ended := by
    intro hun hl r hr hlost
    have hlogs : ∀ r ∈ p.before.database.due p.now, ∀ e, r.load = .ok e →
        ∀ due funnels leads, ReadsDue p.now p.before.database due funnels leads →
        (funnels.find? fun f => f.id == e.funnelId) = p.before.database.funnel? r.funnelId →
        (leads.find? fun l => l.id == e.leadId) = p.before.database.lead? r.leadId →
        Logs p.surroundings p.now funnels leads p.before.database.templates (fun r d r' =>
          lost r.funnelId r.leadId → ∃ e, r.load = .ok e ∧ r' = r.ended (e.orphanedHistory p.now))
          r e := by
      intro r _ e hload due funnels leads hreads _ _
      obtain ⟨-, hfunnelId, hleadId⟩ := ExecutionRow.ids_of_load hload
      by_cases hlost : lost r.funnelId r.leadId
      · rw [← hfunnelId, ← hleadId] at hlost
        exact (orphan_logs hload (hreads.find?_eq_none (hlacks _ _ hlost)) hun.update_none
          hun.clock).mono fun d r' h _ => ⟨e, hload, h.2⟩
      · exact (hreads.proceeded hload _).mono fun d r' _ h => absurd h hlost
    obtain ⟨g, hreplaced, hlog⟩ := hun.rows hk hl hlogs
    have hmem := p.before.database.waitingRows_due_perm.mem_iff.mpr hr
    obtain ⟨d, -, hd⟩ := exists_mem_of_forall₂ hlog hmem
    obtain ⟨e, hload, hg⟩ := hd hlost
    refine ⟨e, hload, ?_⟩
    rw [PassRun.rowAfter_of_replaced hk hreplaced (Database.mem_due.mp hr).1, hg]

/-! ## After a lead or a funnel was deleted -/

section
variable {w w' : World σ} {moves : List (Move σ)}

theorem Course.before_pass (h : Course w moves w') (hp : .pass p ∈ moves) :
    ∃ earlier, Course w earlier p.before ∧ ∀ m ∈ earlier, m ∈ moves := by
  obtain ⟨earlier, later, rfl⟩ := List.append_of_mem hp
  obtain ⟨hcourse, -, -⟩ := h.split
  exact ⟨earlier, hcourse, fun m hm => List.mem_append_left _ hm⟩

theorem Course.keyed (h : Course w moves w') (hw : w.database.Sound) : w'.database.Keyed := by
  obtain ⟨hsound, -⟩ := h.evolves (fun h : False => h.elim) hw
  exact hsound.keyed

theorem Course.lacks_funnel (h : Course w moves w') {id : String}
    (hkept : ∀ w w', .idle w w' ∈ moves → ∀ row ∈ w'.database.funnels, row.id = id →
      row ∈ w.database.funnels)
    (hw : ∀ row ∈ w.database.funnels, row.id ≠ id) : ∀ row ∈ w'.database.funnels, row.id ≠ id := by
  refine h.keeps (P := fun w => ∀ row ∈ w.database.funnels, row.id ≠ id)
    (fun m hm _ hbefore => ?_) hw
  rcases m.aside with ⟨w, w', rfl⟩ | haside
  · exact fun row hrow hid => hbefore row (hkept w w' hm row hrow hid) hid
  · exact haside.funnels_eq ▸ hbefore

/-- If funnels are only saved, what has no funnel at the end had none before. -/
theorem Course.lacks_before {P : Upkeep → Prop} (h : Course w moves w')
    (hopen : ∀ m ∈ moves, m.Open P) (hP : ∀ c, P c → ¬ c.DeletesFunnel) {id : String}
    (hw' : ∀ row ∈ w'.database.funnels, row.id ≠ id) : ∀ row ∈ w.database.funnels, row.id ≠ id := by
  intro row hrow hid
  have hstays : ∃ row' ∈ w'.database.funnels, row'.id = id := by
    refine h.keeps (P := fun w => ∃ row ∈ w.database.funnels, row.id = id)
      (fun m hm _ => ?_) ⟨row, hrow, hid⟩
    rintro ⟨row, hrow, hid⟩
    obtain ⟨row', hrow', hid'⟩ := Move.keepsFunnels (hopen m hm) hP row hrow
    exact ⟨row', hrow', hid'.trans hid⟩
  obtain ⟨row', hrow', hid'⟩ := hstays
  exact hw' row' hrow' hid'

/-- If an identifier is no funnel's before an operation, nor after it, it is none in its passes. -/
theorem Operation.tells (op : Operation) (s : Surroundings σ) (w : World σ) :
    ∃ moves, Course w moves (op.act.run s w).2 ∧
      (∀ m ∈ moves, m.Open fun c => op.IsReadable → c.IsReadable) ∧
      ∀ id, (∀ row ∈ w.database.funnels, row.id ≠ id) →
        (∀ row ∈ (op.act.run s w).2.database.funnels, row.id ≠ id) →
        ∀ p, .pass p ∈ moves → ∀ row ∈ p.before.database.funnels, row.id ≠ id := by
  rcases op.unfolds_oneWay s w with ⟨moves, hcourse, hopen⟩ | ⟨moves, hcourse, hopen⟩
  · refine ⟨moves, hcourse, fun m hm => (hopen m hm).mono fun _ hc => hc.2,
      fun id _ hw' p hp => ?_⟩
    obtain ⟨earlier, later, rfl⟩ := List.append_of_mem hp
    obtain ⟨-, hm, hlater⟩ := hcourse.split
    exact (Course.move hm hlater).lacks_before
      (fun m hm => hopen m (List.mem_append_right _ hm)) (fun _ hc => hc.1) hw'
  · refine ⟨moves, hcourse, fun m hm => (hopen m hm).mono fun c hc _ => ?_, fun id hw _ p hp => ?_⟩
    · cases c with
      | deleteFunnel id => trivial
      | _ => cases hc
    · obtain ⟨earlier, hearlier, hmem⟩ := hcourse.before_pass hp
      refine hearlier.keeps (P := fun w => ∀ row ∈ w.database.funnels, row.id ≠ id)
        (fun m hm _ hbefore row hrow => hbefore row ?_) hw
      exact Move.addsNoFunnel (hopen m (hmem m hm)) (fun _ hc => hc) row hrow

/-- Every run has a course whose passes find no funnel under an identifier that no operation of the
run leaves one under. -/
theorem World.after_tells (turns : List (Surroundings σ × Operation)) (w : World σ) :
    ∃ moves, Course w moves (w.after turns) ∧
      (∀ m ∈ moves, m.Open fun c => (∀ turn ∈ turns, turn.2.IsReadable) → c.IsReadable) ∧
      ∀ id, (∀ earlier, earlier <+: turns →
          ∀ row ∈ (w.after earlier).database.funnels, row.id ≠ id) →
        ∀ p, .pass p ∈ moves → ∀ row ∈ p.before.database.funnels, row.id ≠ id := by
  induction turns generalizing w with
  | nil => exact ⟨[], .stay w, by simp, by simp⟩
  | cons turn turns ih =>
    obtain ⟨first, hfirst, hopen, hlacks⟩ := turn.2.tells turn.1 w
    obtain ⟨later, hlater, hopen', hlacks'⟩ := ih (turn.2.act.run turn.1 w).2
    refine ⟨first ++ later, hfirst.append hlater, fun m hm => ?_, fun id hid p hp => ?_⟩
    · rcases List.mem_append.mp hm with hm | hm
      · exact (hopen m hm).mono fun c hc hreadable => hc (hreadable turn List.mem_cons_self)
      · exact (hopen' m hm).mono fun c hc hreadable =>
          hc fun t ht => hreadable t (List.mem_cons_of_mem turn ht)
    · have hrest : ∀ earlier, earlier <+: turns → ∀ row ∈
          ((turn.2.act.run turn.1 w).2.after earlier).database.funnels, row.id ≠ id :=
        fun earlier hearlier => hid (turn :: earlier) (List.cons_prefix_cons.mpr ⟨rfl, hearlier⟩)
      rcases List.mem_append.mp hp with hp | hp
      · exact hlacks id (hid [] List.nil_prefix) (hrest [] List.nil_prefix) p hp
      · exact hlacks' id hrest p hp

end

theorem Store.deleteFunnel_lacks {id : String} {w : World σ}
    (h : ((deleteFunnel id).run s w).1 = .ok (.own true)) :
    ∀ row ∈ ((deleteFunnel id).run s w).2.database.funnels, row.id ≠ id := by
  rcases deleteFunnel_cases id s w with ⟨-, hdb⟩ | ⟨hnone, -⟩
  · rw [hdb]
    exact fun row hrow => by simpa using (List.mem_filter.mp hrow).2
  · exact absurd h (hnone true)

theorem World.after_concat {α : Type} {x : Action σ α} {op : Operation} (w : World σ)
    (before : List (Surroundings σ × Operation)) (s : Surroundings σ)
    (hop : op.act = x >>= fun _ => pure ()) :
    w.after (before ++ [(s, op)]) = (x.run s (w.after before)).2 := by
  rw [World.after_append]
  change (op.act.run s (w.after before)).2 = _
  rw [hop, Action.snd_run_bind_pure]

/-- Once a lead was deleted, whatever is called, started or driven later, no pass runs a node for
an execution of its identifier, and once a funnel was deleted, none does for an execution of it
until something saves it again; instead the next pass in which such an execution is due ends it.
Later operations do nothing but what is told by such a course. Messages are attempted in its passes
only, and these can read what they need if the operations leave rows readable. As long as no
operation leaves a funnel under an identifier, they drop the executions of that funnel. -/
theorem orphans_get_no_message (outside : σ) (naming : Naming) :
    (∀ before s id,
      ((Store.deleteLead id).run s ((World.fresh outside naming).after before)).1
        = .ok (.own true) →
      ∀ moves w',
        Course ((World.fresh outside naming).after (before ++ [(s, .deleteLead id)])) moves w' →
        (∀ m ∈ moves, m.Open fun _ => True) →
        ∀ p, .pass p ∈ moves → p.Drops fun _ leadId => leadId = id) ∧
    (∀ before s id,
      ((Store.deleteFunnel id).run s ((World.fresh outside naming).after before)).1
        = .ok (.own true) →
      (∀ row ∈ ((World.fresh outside naming).after
          (before ++ [(s, .deleteFunnel id)])).database.funnels, row.id ≠ id) ∧
      ∀ moves w',
        Course ((World.fresh outside naming).after (before ++ [(s, .deleteFunnel id)])) moves w' →
        (∀ w w', .idle w w' ∈ moves → ∀ row ∈ w'.database.funnels, row.id = id →
          row ∈ w.database.funnels) →
        ∀ p, .pass p ∈ moves → p.Drops fun funnelId _ => funnelId = id) ∧
    ∀ turns later : List (Surroundings σ × Operation),
      ∃ moves, Course ((World.fresh outside naming).after turns) moves
          ((World.fresh outside naming).after (turns ++ later)) ∧
        (∀ m ∈ moves, m.Open fun _ => True) ∧
        ((World.fresh outside naming).after (turns ++ later)).attempts
          = ((World.fresh outside naming).after turns).attempts ++ moves.flatMap Move.attempts ∧
        ((∀ turn ∈ turns ++ later, turn.2.IsReadable) →
          ∀ p, .pass p ∈ moves → p.before.database.Loadable) ∧
        ∀ id, (∀ earlier, earlier <+: later →
            ∀ row ∈ ((World.fresh outside naming).after (turns ++ earlier)).database.funnels,
              row.id ≠ id) →
          ∀ p, .pass p ∈ moves → p.Drops fun funnelId _ => funnelId = id := by
  refine ⟨fun before s id hdeleted moves w' hcourse hopen p hp => ?_,
    fun before s id hdeleted => ?_, fun turns later => ?_⟩
  · obtain ⟨earlier, hearlier, hmem⟩ := hcourse.before_pass hp
    have hsound := reached_sound outside naming (before ++ [(s, .deleteLead id)])
    have hvacant :
        ((World.fresh outside naming).after (before ++ [(s, .deleteLead id)])).Vacant id := by
      rw [World.after_concat (x := Store.deleteLead id) _ before s rfl]
      exact Store.deleteLead_vacant (reached_numbered outside naming before) (Prod.ext hdeleted rfl)
    obtain ⟨-, hgone⟩ := hearlier.vacant (fun m hm => hopen m (hmem m hm))
      ⟨reached_numbered outside naming _, hvacant⟩
    refine PassRun.drops (hearlier.keyed hsound) fun _ leadId hlost => .inr ?_
    exact hlost ▸ hgone.absent
  · have hlacks : ∀ row ∈ ((World.fresh outside naming).after
        (before ++ [(s, .deleteFunnel id)])).database.funnels, row.id ≠ id := by
      rw [World.after_concat (x := Store.deleteFunnel id) _ before s rfl]
      exact Store.deleteFunnel_lacks hdeleted
    refine ⟨hlacks, fun moves w' hcourse hkept p hp => ?_⟩
    obtain ⟨earlier, hearlier, hmem⟩ := hcourse.before_pass hp
    have hsound := reached_sound outside naming (before ++ [(s, .deleteFunnel id)])
    have hgone := hearlier.lacks_funnel (fun w w' hidle => hkept w w' (hmem _ hidle)) hlacks
    refine PassRun.drops (hearlier.keyed hsound) fun funnelId _ hlost => .inl ?_
    exact hlost ▸ hgone
  · obtain ⟨moves, hcourse, hopen, hlacks⟩ :=
      World.after_tells later ((World.fresh outside naming).after turns)
    rw [World.after_append]
    refine ⟨moves, hcourse, fun m hm => (hopen m hm).mono fun _ _ => trivial, hcourse.attempts_eq,
      fun hreadable p hp => ?_, fun id hid p hp => ?_⟩
    · obtain ⟨earlier, hearlier, hmem⟩ := hcourse.before_pass hp
      have hcalls : ∀ m ∈ earlier, m.Open Upkeep.IsReadable := fun m hm =>
        (hopen m (hmem m hm)).mono fun c hc =>
          hc fun turn hturn => hreadable turn (List.mem_append_right _ hturn)
      exact (hearlier.readable hcalls (reached_readable outside naming
        fun turn hturn => hreadable turn (List.mem_append_left _ hturn))).2.loadable
    · obtain ⟨earlier, hearlier, -⟩ := hcourse.before_pass hp
      have hk := hearlier.keyed (reached_sound outside naming turns)
      refine PassRun.drops hk fun funnelId _ hlost => .inl ?_
      refine hlost ▸ hlacks id (fun earlier hearlier => ?_) p hp
      exact World.after_append _ turns earlier ▸ hid earlier hearlier

namespace Newsletter

theorem funnel_proper : funnel.Proper where
  name := by decide
  trigger := by decide
  nodes := by
    intro n hn
    simp only [funnel, List.mem_cons, List.not_mem_nil, or_false] at hn
    rcases hn with rfl | rfl <;> exact ⟨by decide, by decide, nofun, trivial⟩
  graph := validated.graph

/-- The funnel is saved, and a lead subscribes, to whom the letter is sent. -/
def enrolled : List (Surroundings Unit × Operation) :=
  [(surroundings, .saveFunnel ⟨some funnel.id, fun _ => funnel⟩),
   (surroundings, .subscribeLead { email := .str lead.email })]

theorem enrolled_isReadable : ∀ turn ∈ enrolled, turn.2.IsReadable := by
  simp only [enrolled, List.forall_mem_cons]
  exact ⟨fun _ => funnel_proper, trivial, List.forall_mem_nil _⟩

/-- The pass after the pause, before which one more operation was performed. -/
def nextPass (op : Operation) : PassRun Unit :=
  ⟨surroundings, .ahead Calendar.hour 0,
    (World.fresh ()).after (enrolled ++ [(surroundings, op)])⟩

theorem nextPass_unhindered (op : Operation) : (nextPass op).Unhindered :=
  ⟨fun _ _ _ _ => rfl, show Calendar.inRange start.instant = true by decide, rfl⟩

theorem nextPass_course (op : Operation) :
    Course (nextPass op).before [.pass (nextPass op)] (nextPass op).after :=
  .move (m := .pass (nextPass op)) trivial (.stay _)

theorem eq_own_true {r : Except Failure (Reply Bool)}
    (h : (match r with | .ok (.own b) => b | _ => false) = true) : r = .ok (.own true) := by
  split at h
  · rw [h]
  · cases h

/-- What a pass that drops an execution that is due makes of it. -/
theorem nextPass_ends {op : Operation} (hop : op.IsReadable) {lost : String → String → Prop}
    (hdrops : (nextPass op).Drops lost)
    (hdue : ∃ r ∈ (nextPass op).before.database.due (nextPass op).now,
      r.funnelId = funnel.id ∧ r.leadId = lead.id ∧ r.currentNodeId = some letter.id)
    (hlost : lost funnel.id lead.id) :
    ∃ r ∈ (nextPass op).before.database.executions, ∃ e, r.load = .ok e ∧
      (nextPass op).rowAfter r.id = some (r.ended (e.history ++
        [[("node_id", .str "letter"), ("node_type", .null), ("outcome", .str "orphaned"),
          ("at", .str (Calendar.Stamp.ahead Calendar.hour 0).isoText)]])) := by
  obtain ⟨r, hr, hfunnel, hleadId, hnode⟩ := hdue
  have hreadable : ∀ turn ∈ enrolled ++ [(surroundings, op)], turn.2.IsReadable := by
    rw [List.forall_mem_append, List.forall_mem_singleton]
    exact ⟨enrolled_isReadable, hop⟩
  have hloadable : (nextPass op).before.database.Loadable :=
    (reached_readable () .counted hreadable).2.loadable
  obtain ⟨e, hload, hrow⟩ := hdrops.ended (nextPass_unhindered op) hloadable r hr
    (by rwa [hfunnel, hleadId])
  obtain ⟨status, history, -, -, rfl⟩ := ExecutionRow.load_eq_ok_iff.mp hload
  have hcurrent : (r.toExecution status history).currentNodeId = some letter.id := hnode
  rw [Execution.orphanedHistory, hcurrent] at hrow
  exact ⟨r, (Database.mem_due.mp hr).1, _, hload, hrow⟩

/-- The lead is deleted, or the funnel is: the letter, which is due again, is not sent, and the
execution is ended. -/
theorem letter_not_repeated :
    ((Store.deleteLead lead.id).run surroundings ((World.fresh ()).after enrolled)).1
      = .ok (.own true) ∧
    ((Store.deleteFunnel funnel.id).run surroundings ((World.fresh ()).after enrolled)).1
      = .ok (.own true) ∧
    ∀ op ∈ [Operation.deleteLead lead.id, .deleteFunnel funnel.id],
      ∃ r ∈ (nextPass op).before.database.executions, ∃ e, r.load = .ok e ∧
        (nextPass op).rowAfter r.id = some (r.ended (e.history ++
          [[("node_id", .str "letter"), ("node_type", .null), ("outcome", .str "orphaned"),
            ("at", .str (Calendar.Stamp.ahead Calendar.hour 0).isoText)]])) := by
  have hlead : ((Store.deleteLead lead.id).run surroundings ((World.fresh ()).after enrolled)).1
      = .ok (.own true) := eq_own_true (by decide +kernel)
  have hfunnel : ((Store.deleteFunnel funnel.id).run surroundings
      ((World.fresh ()).after enrolled)).1 = .ok (.own true) := eq_own_true (by decide +kernel)
  refine ⟨hlead, hfunnel, ?_⟩
  rw [List.forall_mem_cons, List.forall_mem_singleton]
  constructor
  · have hdrops := (orphans_get_no_message () .counted).1 enrolled surroundings lead.id hlead
    refine nextPass_ends trivial (hdrops _ _ (nextPass_course _) ?_ _ (List.mem_singleton_self _))
      (by decide +kernel) rfl
    simp [Move.Open]
  · obtain ⟨-, hdrops⟩ :=
      (orphans_get_no_message () .counted).2.1 enrolled surroundings funnel.id hfunnel
    refine nextPass_ends trivial (hdrops _ _ (nextPass_course _) ?_ _ (List.mem_singleton_self _))
      (by decide +kernel) rfl
    simp

end Newsletter

end Nurture
