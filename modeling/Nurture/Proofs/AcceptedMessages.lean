import Nurture.Proofs.Orphans

/-!
  Messages that are accepted

  Where nothing comes in the way of calls and every message is accepted (`Surroundings.Obliging`),
  it can be said exactly what a node comes to, one lemma for each kind of node that sends or waits
  (`Step.perform_email`, `Step.perform_whatsApp`, `Step.perform_delay`), and with it what driving
  an execution comes to that has its last email before it, or a WhatsApp message and a delay, or
  whose lead is gone.
-/

namespace Nurture

open Nurture.Action

variable {σ : Type} {s : Surroundings σ} {w : World σ}

/-- Nothing comes in the way: no call is interrupted, every message is accepted, rows can be dated,
and an execution may visit two nodes in one pass. -/
structure Surroundings.Obliging (s : Surroundings σ) : Prop where
  calls : ∀ c o, (s.interrupt c o).1 = none
  accepts : ∀ m o, (s.deliver m o).1.refusal = none
  clock : Calendar.inRange s.clock.instant = true
  databaseClock : Calendar.inRange s.databaseClock.instant = true
  room : 2 ≤ s.policy.maxNodes

namespace Surroundings.Obliging

variable (h : s.Obliging)
include h

theorem steady : Steady s := by
  intro c o i hi
  rw [h.calls c o] at hi
  cases hi

theorem bound_le : 2 ≤ s.policy.bound := by
  have := h.room
  unfold Policy.bound
  omega

theorem deliver (m : Message) :
    (Action.deliver m : Action σ _).EndsWith s w (.ok none) (w.attempts ++ [⟨m, false⟩])
      w.database := by
  have hattempt : (s.deliver m w.outside).1.refusal.isSome = false := by
    rw [h.accepts m w.outside]
    rfl
  refine ⟨_, Prod.ext (congrArg Except.ok (h.accepts m w.outside)) rfl, ?_, rfl⟩
  show w.attempts ++ [⟨m, (s.deliver m w.outside).1.refusal.isSome⟩] = _
  rw [hattempt]

theorem guarded {α : Type} {c : Call} {body : Action σ α} {a : α} {attempts : List Attempt}
    {db : Database}
    (hbody : ∀ o, body.EndsWith s { w with outside := o } (.ok a) attempts db) :
    (Action.guarded c body).EndsWith s w (.ok (.own a)) attempts db := by
  obtain ⟨w', hrun, hw'⟩ := hbody (s.interrupt c w.outside).2
  refine ⟨w', ?_, hw'⟩
  unfold Action.guarded
  rw [relayed_of_none (h.calls c w.outside), run_map, hrun]
  rfl

end Surroundings.Obliging

/-! ## Running a node -/

theorem Store.run_templateRow? (id : String) :
    (templateRow? id).run s w
      = ((Column.whole id).map fun _ => w.database.templates.find? fun r => r.template.id == id,
          w) :=
  run_lookup (fun db id => db.templates.find? fun r : TemplateRow => r.template.id == id) id s w

namespace Step

variable (ctx : StepContext) {n : Node} {next : Option String}

theorem run_render (template : String) :
    (render ctx template).run s w
      = (.ok (substitute s.policy.defaultName template ctx.execution.context ctx.lead), w) :=
  rfl

variable (hs : s.Obliging)
include hs

theorem perform_endsWith {result : StepResult} {attempts : List Attempt} {db : Database}
    (h : ∀ o, (execute ctx n).EndsWith s { w with outside := o } (.ok result) attempts db) :
    (perform ctx n).EndsWith s w (.ok result) attempts db := by
  obtain ⟨w', hrun, hw'⟩ := hs.guarded (c := .runNode) h
  refine ⟨w', ?_, hw'⟩
  unfold perform
  rw [run_bind_ok hrun]
  rfl

theorem perform_email {data : EmailData} {subject content : String}
    (hn : n.task = .email data next) (hsubject : filled data.subject = some subject)
    (hcontent : filled data.content = some content) :
    (perform ctx n).EndsWith s w (.ok (.advanced next true))
      (w.attempts ++ [⟨.email ctx.lead.email
        (substitute s.policy.defaultName subject ctx.execution.context ctx.lead)
        (substitute s.policy.defaultName content ctx.execution.context ctx.lead), false⟩])
      w.database := by
  refine perform_endsWith ctx hs fun o => ?_
  obtain ⟨w', hrun, hw'⟩ := hs.deliver (w := { w with outside := o }) (.email ctx.lead.email
    (substitute s.policy.defaultName subject ctx.execution.context ctx.lead)
    (substitute s.policy.defaultName content ctx.execution.context ctx.lead))
  refine ⟨w', ?_, hw'⟩
  rw [execute, hn]
  dsimp only
  unfold email
  rw [hsubject, hcontent]
  dsimp only
  rw [run_bind_ok (run_render ctx subject), run_bind_ok (run_render ctx content),
    run_bind_ok hrun]
  rfl

theorem run_whatsAppText {data : WhatsAppData} {id : String} {row : TemplateRow}
    (hid : filled data.templateId = some id) (hwhole : Text.isWhole id = true)
    (hrow : (w.database.templates.find? fun r => r.template.id == id) = some row) :
    (whatsAppText ctx n.id data).EndsWith s w
      (.ok (some (substitute s.policy.defaultName row.template.content ctx.execution.context
        ctx.lead))) w.attempts w.database := by
  have htemplate : (Store.getTemplate id : Action σ _).EndsWith s w (.ok (.own (some row.template)))
      w.attempts w.database := by
    refine hs.guarded fun o => ⟨{ w with outside := o }, ?_, rfl, rfl⟩
    rw [run_bind, Store.run_templateRow?, Column.whole_eq_ok hwhole, hrow]
    rfl
  obtain ⟨w', hrun, hw'⟩ := htemplate
  refine ⟨w', ?_, hw'⟩
  unfold whatsAppText
  rw [hid]
  dsimp only
  rw [run_bind_ok hrun]
  rfl

theorem perform_whatsApp {data : WhatsAppData} {id : String} {row : TemplateRow}
    (hn : n.task = .whatsApp data next) (htime : filled data.sendTime = none)
    (hid : filled data.templateId = some id) (hwhole : Text.isWhole id = true)
    (hrow : (w.database.templates.find? fun r => r.template.id == id) = some row) :
    (perform ctx n).EndsWith s w (.ok (.advanced next (ctx.lead.phone ≠ "")))
      (w.attempts ++ if ctx.lead.phone = "" then [] else
        [⟨.whatsApp ctx.lead.phone plainTextOnly [] (substitute s.policy.defaultName
          row.template.content ctx.execution.context ctx.lead), false⟩])
      w.database := by
  refine perform_endsWith ctx hs fun o => ?_
  have hwindow : windowToAwait ctx data s.policy = .ok none := by
    unfold windowToAwait
    rw [htime]
  rw [execute, hn]
  dsimp only
  unfold whatsApp EndsWith
  rw [run_bind_ok (run_policy s _), hwindow, run_bind_ok (run_ofExcept _ s _)]
  dsimp only
  by_cases hphone : ctx.lead.phone = ""
  · rw [if_pos hphone, if_pos hphone, List.append_nil]
    have hsent : decide (ctx.lead.phone ≠ "") = false := by simpa using hphone
    rw [hsent]
    exact ⟨_, rfl, rfl, rfl⟩
  · rw [if_neg hphone, if_neg hphone]
    obtain ⟨w₁, htext, hattempts, hdb⟩ :=
      run_whatsAppText ctx (n := n) (w := { w with outside := o }) hs hid hwhole hrow
    obtain ⟨w', hrun, hattempts', hdb'⟩ := hs.deliver (w := w₁) (.whatsApp ctx.lead.phone
      plainTextOnly [] (substitute s.policy.defaultName row.template.content
        ctx.execution.context ctx.lead))
    refine ⟨w', ?_, by rw [hattempts', hattempts], hdb'.trans hdb⟩
    rw [run_bind_ok htext]
    dsimp only
    rw [run_bind_ok hrun]
    have hsent : decide (ctx.lead.phone ≠ "") = true := by simpa using hphone
    rw [hsent]
    rfl

theorem perform_delay {data : DelayData} {node : String} {span : Int} {resumeAt : Calendar.Stamp}
    (hn : Delays n data node)
    (hspan : Calendar.Span.ofHours (delayHours s.policy data) = .ok span)
    (hadd : ctx.now.add span = .ok resumeAt) :
    (perform ctx n).EndsWith s w (.ok (.suspended node resumeAt)) w.attempts w.database := by
  obtain ⟨next, hn, hnode⟩ := hn
  refine perform_endsWith ctx hs fun o => ⟨{ w with outside := o }, ?_, rfl, rfl⟩
  unfold delayHours at hspan
  rw [execute, hn]
  dsimp only
  unfold delay
  rw [run_bind_ok (run_policy s _), hnode]
  dsimp only
  rw [mapError_eq_ok_iff.mpr hspan, run_bind_ok (run_ofExcept _ s _), mapError_eq_ok_iff.mpr hadd]
  rfl

end Step

/-! ## Driving an execution -/

/-- The row is that of the execution after it has ended. -/
def ExecutionRow.BecomesEnded (r r' : ExecutionRow) : Prop := ∃ history, r' = r.ended history

/-- The row is that of the execution after it was parked at the node until the time. -/
def ExecutionRow.BecomesParked (r : ExecutionRow) (node : String) (time : Int)
    (r' : ExecutionRow) : Prop :=
  ∃ history, r' = r.parkedAt node time history

section
variable {now : Calendar.Stamp} {templates : List TemplateRow} {f : Funnel} {lead : Lead}
  {r : ExecutionRow} {e : Execution} {n : Node} {id : String}

theorem Action.EndsWith.row {x : Action σ Departure} {answer : Except Failure Departure}
    {attempts : List Attempt} {g : ExecutionRow → ExecutionRow} {Q : ExecutionRow → Prop}
    (h : x.EndsWith s w answer attempts (w.database.change r.id g)) (hk : w.database.Keyed)
    (hr : r ∈ w.database.executions) (hid : (g r).id = r.id) (hQ : Q (g r)) :
    ∃ answer r', x.EndsWith s w answer attempts (w.database.change r.id fun _ => r') ∧
      r'.id = r.id ∧ Q r' := by
  obtain ⟨w', hrun, hattempts, hdb⟩ := h
  exact ⟨answer, g r, ⟨w', hrun, hattempts, hdb.trans (hk.change_congr hr rfl)⟩, hid, hQ⟩

variable (hs : s.Obliging) (hload : r.load = .ok e)
include hs hload

/-- An execution whose funnel or lead is gone is ended without a message. -/
theorem drives_orphan {funnel : Option Funnel} {lead : Option Lead}
    (hgone : funnel = none ∨ lead = none) :
    Drives s now templates funnel lead [] r.BecomesEnded r e := by
  intro w hk hr _
  have hends : (processExecution e funnel lead now).EndsWith s w _ _ _ :=
    processExecution_ends_orphan hgone hk hr hload (hs.calls _) hs.databaseClock
  rw [List.append_nil]
  exact hends.row hk hr rfl ⟨_, rfl⟩

variable (hid : reference r.currentNodeId = some id) (hn : f.node? id = some n)
include hid hn

/-- At an email node after which nothing comes, the email is sent and the execution ends. -/
theorem drives_email {data : EmailData} {subject content : String}
    (htask : n.task = .email data none) (hsubject : filled data.subject = some subject)
    (hcontent : filled data.content = some content) :
    Drives s now templates (some f) (some lead)
      [⟨.email lead.email (substitute s.policy.defaultName subject r.context lead)
        (substitute s.policy.defaultName content r.context lead), false⟩]
      r.BecomesEnded r e := by
  intro w hk hr _
  obtain ⟨status, history, -, -, rfl⟩ := ExecutionRow.load_eq_ok_iff.mp hload
  obtain ⟨w₁, hrun, hattempts, -⟩ := Step.perform_email (w := w)
    ⟨r.toExecution status history, lead, now⟩ hs htask hsubject hcontent
  have hbound := hs.bound_le
  have hends := process_ended hk hr hload hs.databaseClock (hs.calls _)
    (.step hid hn hrun hattempts (.stay none w₁)) (show 1 ≤ s.policy.bound by omega) rfl
  rw [hattempts] at hends
  exact hends.row hk hr rfl ⟨_, rfl⟩

/-- At a WhatsApp node without a send time, before a delay, the text of its template is sent to a
lead with a phone, and the execution is parked behind the delay. -/
theorem drives_whatsApp_delay (hf : f.Validated) {data : WhatsAppData} {delay : DelayData}
    {next template node : String} {d : Node} {row : TemplateRow} {span : Int}
    {resumeAt : Calendar.Stamp}
    (htask : n.task = .whatsApp data (some next)) (htime : filled data.sendTime = none)
    (htemplate : filled data.templateId = some template) (hwhole : Text.isWhole template = true)
    (hrow : (templates.find? fun r => r.template.id == template) = some row)
    (hnext : reference (some next) = some next) (hd : f.node? next = some d)
    (hdelays : Step.Delays d delay node)
    (hspan : Calendar.Span.ofHours (Step.delayHours s.policy delay) = .ok span)
    (hadd : now.add span = .ok resumeAt) (hutc : ∃ m, resumeAt.toUtc = .ok m) :
    Drives s now templates (some f) (some lead)
      (if lead.phone = "" then [] else [⟨.whatsApp lead.phone Step.plainTextOnly []
        (substitute s.policy.defaultName row.template.content r.context lead), false⟩])
      (r.BecomesParked node resumeAt.instant) r e := by
  intro w hk hr htemplates
  obtain ⟨status, history, -, -, rfl⟩ := ExecutionRow.load_eq_ok_iff.mp hload
  rw [← htemplates] at hrow
  obtain ⟨w₁, hrun, hattempts, -⟩ := Step.perform_whatsApp (w := w)
    ⟨r.toExecution status history, lead, now⟩ hs htask htime htemplate hwhole hrow
  obtain ⟨w₂, hpark, hattempts₂, -⟩ := Step.perform_delay (w := w₁)
    ⟨r.toExecution status history, lead, now⟩ hs hdelays hspan hadd
  have hbound := hs.bound_le
  have hends := process_parked hk hr hload hs.databaseClock (hs.calls _) hf
    (.step hid hn hrun hattempts (.stay _ w₁)) (show 1 < s.policy.bound by omega) hnext hd hpark
    hutc
  rw [hattempts₂, hattempts] at hends
  exact hends.row hk hr rfl ⟨_, rfl⟩

end

end Nurture
