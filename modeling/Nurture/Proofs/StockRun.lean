import Nurture.Proofs.Cohorts
import Nurture.Proofs.Delays
import Nurture.Proofs.StockCreation

/-!
  The stock funnel from end to end

  Created in tables without funnels and executions and broadcast to the active leads, the stock
  funnel sends each of them with a phone one WhatsApp message, and a day later each of them that is
  still there one email, whatever the times of passes in between and after it
  (`Stock.post_reaches_active_leads`). Its parts are the nodes of the funnel (`Stock.drives_alert`,
  `Stock.drives_mail`), which carry its cohort of executions from the message to the email and then
  to their end. The day must be one that the calendar has: on its last day the delay cannot be
  reckoned, so nothing is recorded and the next pass sends the message again; and a time whose
  distance from UTC is unknown is no time for a pass (`Untimely.alerted_twice_or_never`).
-/

namespace Nurture

open Nurture.Action

variable {σ : Type} {s : Surroundings σ} {w : World σ} {db : Database}

namespace Stock

/-! ## The nodes -/

section
variable (naming : Naming) (k : Nat) (id : String)

theorem kept_validated : (kept naming k id).Validated :=
  FunnelRow.validated_of_load (draft_load naming k id 0)

theorem node?_of_mem {n : Node} (hn : n ∈ (kept naming k id).nodes) :
    (kept naming k id).node? n.id = some n :=
  find?_key (draft_proper naming k id).graph.nodup hn

theorem reference_name (kind : Kind) (j : Nat) :
    reference (some (naming.name kind j)) = some (naming.name kind j) := by
  simp [reference, naming.ne_empty]

theorem node?_whatsApp : ∃ n data, (kept naming k id).node? (naming.name .stock (k + 2)) = some n ∧
    n.task = .whatsApp data (some (naming.name .stock (k + 3))) ∧ filled data.sendTime = none ∧
    filled data.templateId = some (naming.name .stock (k + 1)) :=
  ⟨_, _, node?_of_mem naming k id List.mem_cons_self, rfl, rfl,
    reference_name naming .stock (k + 1)⟩

theorem node?_delay : ∃ n data, (kept naming k id).node? (naming.name .stock (k + 3)) = some n ∧
    Step.Delays n data (naming.name .stock (k + 4)) ∧ data.hours = 24 :=
  ⟨_, _, node?_of_mem naming k id (List.mem_cons_of_mem _ List.mem_cons_self),
    ⟨_, rfl, reference_name naming .stock (k + 4)⟩, rfl⟩

theorem node?_email : ∃ n data, (kept naming k id).node? (naming.name .stock (k + 4)) = some n ∧
    n.task = .email data none ∧ filled data.subject = some emailSubject ∧
    filled data.content = some emailContent := by
  refine ⟨_, _, node?_of_mem naming k id (List.mem_cons_of_mem _ (List.mem_cons_of_mem _
    List.mem_cons_self)), rfl, ?_, ?_⟩ <;> decide +kernel

end

/-! ## The messages -/

/-- The WhatsApp message to a lead. -/
def alert (defaultName : String) (t : Template) (texts : Context) (l : Lead) : Attempt :=
  ⟨.whatsApp l.phone Step.plainTextOnly [] (substitute defaultName t.content texts l), false⟩

/-- The email to a lead. -/
def mail (defaultName : String) (texts : Context) (l : Lead) : Attempt :=
  ⟨.email l.email (substitute defaultName emailSubject texts l)
    (substitute defaultName emailContent texts l), false⟩

section
variable {naming : Naming} {k : Nat} {id : String} {now : Calendar.Stamp}
  {templates : List TemplateRow} {l : Lead} {r : ExecutionRow} {e : Execution} (hs : s.Obliging)
  (hload : r.load = .ok e)
include hs hload

/-- A lead with a phone is told of the post at once, and its execution waits for a day. -/
theorem drives_alert (hnode : r.currentNodeId = some (naming.name .stock (k + 2)))
    {row : TemplateRow}
    (hrow : (templates.find? fun r => r.template.id == naming.name .stock (k + 1)) = some row)
    (hday : now.Admits 24) :
    Drives s now templates (some (kept naming k id)) (some l)
      (if l.phone = "" then [] else [alert s.policy.defaultName row.template r.context l])
      (r.BecomesParked (naming.name .stock (k + 4)) (now.plus Calendar.day).instant) r e := by
  obtain ⟨n, data, hn, htask, htime, htemplate⟩ := node?_whatsApp naming k id
  obtain ⟨d, delay, hd, hdelays, hhours⟩ := node?_delay naming k id
  have hday' : Calendar.Span.ofHours (24 : Nat) = .ok Calendar.day := by decide +kernel
  have hspan : Calendar.Span.ofHours (Step.delayHours s.policy delay) = .ok Calendar.day := by
    rwa [Step.delayHours, hhours]
  obtain ⟨hadd, hutc⟩ := hday.add hday'
  have hid : reference r.currentNodeId = some (naming.name .stock (k + 2)) := by
    rw [hnode, reference_name]
  exact drives_whatsApp_delay hs hload hid hn (kept_validated naming k id) htask htime htemplate
    (naming.whole _ _) hrow (reference_name _ _ _) hd hdelays hspan hadd hutc

/-- A day later the lead gets an email, and its execution ends. -/
theorem drives_mail (hnode : r.currentNodeId = some (naming.name .stock (k + 4))) :
    Drives s now templates (some (kept naming k id)) (some l)
      [mail s.policy.defaultName r.context l] r.BecomesEnded r e := by
  obtain ⟨n, data, hn, htask, hsubject, hcontent⟩ := node?_email naming k id
  have hid : reference r.currentNodeId = some (naming.name .stock (k + 4)) := by
    rw [hnode, reference_name]
  exact drives_email hs hload hid hn htask hsubject hcontent

end

/-! ## The run -/

/-- The template of the WhatsApp message with which a funnel starts, as it is kept. -/
def firstTemplate? (db : Database) (f : Funnel) : Option Template := do
  let start ← f.start
  let n ← f.node? start
  let data ← match n.task with
    | .whatsApp data _ => some data
    | _ => none
  let id ← filled data.templateId
  let row ← db.templates.find? fun r => r.template.id == id
  return row.template

/-- What the first pass makes of the executions once the day is over. -/
structure Mails (f : Funnel) (texts : Context) (leads : List Lead) (s : Surroundings σ)
    (w w' : World σ) : Prop where
  /-- Each lead that is still there gets one email, and nothing else is sent. -/
  mails : ∃ new, w'.attempts = w.attempts ++ new ∧
    new.Perm ((leads.filter fun l => w.database.hasLead l.id).map (mail s.policy.defaultName texts))
  /-- All the executions have ended, those of leads that are gone too. -/
  ended : List.Forall₂ (fun l r => r.HasEnded f.id l.id) leads w'.database.executions
  /-- Nothing more is sent. -/
  last : ∀ turns : List (Surroundings σ × Operation),
    (∀ turn ∈ turns, turn.2.IsPassOrDeletion) →
      (w'.after turns).attempts = w'.attempts ∧
        (w'.after turns).database.executions = w'.database.executions

/-- What a broadcast makes of the stock funnel, for the leads that are active. -/
structure Distributes (f : Funnel) (texts : Context) (leads : List Lead) (s : Surroundings σ)
    (w w' : World σ) : Prop where
  /-- Each lead with a phone gets one WhatsApp message, with the template as it is kept, and nothing
  else is sent. -/
  alerts : ∃ t, firstTemplate? w.database f = some t ∧ ∃ new, w'.attempts = w.attempts ++ new ∧
    new.Perm ((leads.filter (·.phone ≠ "")).map (alert s.policy.defaultName t texts))
  /-- Each lead, with or without a phone, has one execution, which waits at an email for a day. -/
  waiting : ∃ node n data, f.node? node = some n ∧ n.task = .email data none ∧
    List.Forall₂ (fun l r => r.Awaits f.id l.id node (s.clock.plus Calendar.day).instant) leads
      w'.database.executions
  /-- Before the day is over, passes send nothing and leave the executions as they are. -/
  quiet : ∀ turns, (∀ turn ∈ turns, IsEarly (s.clock.plus Calendar.day).instant turn) →
    (w'.after turns).attempts = w'.attempts ∧
      (w'.after turns).database.executions = w'.database.executions
  /-- The first pass from then on sends the emails. -/
  mails : ∀ turns, (∀ turn ∈ turns, IsEarly (s.clock.plus Calendar.day).instant turn) →
    ∀ (s' : Surroundings σ) (op : Operation), s'.Obliging →
      op.IsPassFrom (s.clock.plus Calendar.day).instant s' →
        Mails f texts leads s' (w'.after turns) (op.act.run s' (w'.after turns)).2

section
variable {naming : Naming} {k : Nat} {id : String} {texts : Context} {leads : List Lead}
  {node : String} {time : Int}

theorem flatMap_alert (defaultName : String) (t : Template) :
    (leads.flatMap fun l => if l.phone = "" then [] else [alert defaultName t texts l])
      = (leads.filter (·.phone ≠ "")).map (alert defaultName t texts) := by
  have h := flatMap_ite_nil (fun l : Lead => decide (l.phone ≠ ""))
    (fun l => [alert defaultName t texts l]) leads
  rw [List.map_eq_flatMap, ← h]
  refine List.flatMap_congr fun l _ => ?_
  by_cases hphone : l.phone = "" <;> simp [hphone]

/-- A pass once the day is over mails a cohort that waits at the email. -/
theorem mails_of_cohort
    (h : Cohort (kept naming k id) leads texts (naming.name .stock (k + 4)) time w.database)
    (hs : s.Obliging) {op : Operation} (hop : op.IsPassFrom time s) :
    Mails (kept naming k id) texts leads s w (op.act.run s w).2 := by
  obtain ⟨now, hpass, haware, hnow⟩ := hop
  rw [Operation.run_act_of_passTime? hpass]
  have hdrives : DrivesEach s now w.database.templates (kept naming k id) leads texts
      (naming.name .stock (k + 4)) time (fun l => [mail s.policy.defaultName texts l])
      ExecutionRow.BecomesEnded := by
    rintro l - r e hload hawaits rfl
    exact drives_mail hs hload hawaits.node_eq
  obtain ⟨hdone, hended, new, hattempts, hperm⟩ :=
    h.ends (p := ⟨s, now, w⟩) hs haware hnow hdrives
  rw [← List.map_eq_flatMap] at hperm
  exact ⟨⟨new, hattempts, hperm⟩, hended, fun turns hturns => hdone.after hturns⟩

theorem Created.offers {db' : Database} (h : Created naming k (kept naming k id) db db')
    (hexecutions : db.executions = []) (hleads : db.LeadsInOrder) :
    db'.Offers (kept naming k id) where
  funnel := by
    obtain ⟨createdAt, hfunnels⟩ := h.funnel
    exact ⟨_, hfunnels, draft_load naming k id createdAt, h.whole⟩
  executions := h.executions_eq.trans hexecutions
  leads := by
    constructor <;> rw [h.leads_eq]
    exacts [hleads.load, hleads.nodup, hleads.searchable]

theorem Created.firstTemplate?_eq {db' : Database}
    (h : Created naming k (kept naming k id) db db') :
    firstTemplate? db' (kept naming k id) = some (Stock.template (naming.name .stock (k + 1))) := by
  obtain ⟨row, hrow, hfind⟩ := h.template
  obtain ⟨n, data, hn, htask, -, htemplate⟩ := node?_whatsApp naming k id
  have hstart : (kept naming k id).start = some (naming.name .stock (k + 2)) := rfl
  simp [firstTemplate?, hstart, hn, htask, htemplate, hfind, hrow]

/-- The stock funnel, created in tables without funnels and executions, tells all active leads of a
new post: with a WhatsApp message at once, and with an email a day later. -/
theorem post_reaches_active_leads {s₀ s₁ : Surroundings σ} {w : World σ} (hs₀ : s₀.Obliging)
    (hs₁ : s₁.Obliging) (haware : s₁.clock.isLocal = false) (hday : s₁.clock.Admits 24)
    (hfunnels : w.database.funnels = []) (hexecutions : w.database.executions = [])
    (hleads : w.database.LeadsInOrder) (texts : Context) :
    ∃ f w₁ created w₂ leads, (create : Action σ _).run s₀ w = (.ok f, w₁) ∧
      (broadcast Trigger.newPostPublished (Context.fields texts)).run s₁ w₁ = (.ok created, w₂) ∧
      List.Forall₂ (fun r l => LeadRow.load r = .ok l) w.database.activeRows leads ∧
      w₁.attempts = w.attempts ∧ Distributes f texts leads s₁ w₁ w₂ := by
  obtain ⟨id, w₁, hcreate, hattempts₁, hcreated⟩ := run_create hs₀ hfunnels
  have hoffers := hcreated.offers hexecutions hleads
  obtain ⟨leads, created, w', hload, hbroadcast, hlength, hcohort, hattempts', hleads',
    htemplates⟩ := run_broadcast_offered hoffers hs₁ rfl
      (Funnel.entry?_eq_some_iff.mpr ⟨List.cons_ne_nil _ _, reference_name _ _ _⟩) texts
  -- Starting executions leaves templates and leads as they were.
  obtain ⟨row, hrow, hfind⟩ := hcreated.template
  rw [← htemplates] at hfind
  have hthere : ∀ l ∈ leads, w'.database.hasLead l.id = true := by
    intro l hl
    obtain ⟨r, hr, hr'⟩ := exists_mem_of_forall₂ hload.flip hl
    rw [Database.hasLead, hleads', List.any_eq_true]
    exact ⟨r, (Database.mem_activeRows.mp hr).1, by simpa using (LeadRow.id_of_load hr').symm⟩
  have hdrives : DrivesEach s₁ s₁.clock w'.database.templates
      (kept w.issued.naming w.issued.stock id) leads texts
      (w.issued.naming.name .stock (w.issued.stock + 2)) s₁.clock.instant
      (fun l => if l.phone = "" then [] else [alert s₁.policy.defaultName row.template texts l])
      (fun r => r.BecomesParked (w.issued.naming.name .stock (w.issued.stock + 4))
        (s₁.clock.plus Calendar.day).instant) := by
    rintro l - r e hload hawaits rfl
    exact drives_alert hs₁ hload hawaits.node_eq hfind hday
  -- The pass of the broadcast takes the cohort from the message to the email.
  obtain ⟨w₂, hdriven, hcohort₂, new, hattempts₂, hperm⟩ :=
    hcohort.run_driveCreated hlength hs₁ haware hthere hdrives
  refine ⟨_, w₁, created, w₂, leads, hcreate, hbroadcast.trans hdriven, ?_, hattempts₁, ?_⟩
  · rwa [Database.activeRows, ← hcreated.leads_eq]
  · obtain ⟨n, data, hn, htask, -⟩ := node?_email w.issued.naming w.issued.stock id
    refine ⟨⟨_, hcreated.firstTemplate?_eq, new, hattempts'.symm ▸ hattempts₂, ?_⟩, ?_, ?_, ?_⟩
    case refine_1 =>
      rwa [flatMap_alert, hrow] at hperm
    case refine_2 =>
      exact ⟨_, n, data, hn, htask, hcohort₂.rows.imp fun _ _ h => h.1⟩
    case refine_3 =>
      exact fun turns hturns => (hcohort₂.after hturns).2
    case refine_4 =>
      exact fun turns hturns s' op hs' hop =>
        mails_of_cohort (hcohort₂.after hturns).1 hs' hop

end

end Stock

namespace Crowd

/-- A lead with a phone, one that no longer takes part, and one without a phone. -/
def leads : List LeadRow :=
  [⟨"lead-1", "ada@example.com", "Ada", "+351 900 000 000", Lead.active, [], "new", none, 0⟩,
   ⟨"lead-2", "bob@example.com", "Bob", "+351 900 000 001", "paused", [], "new", none, 0⟩,
   ⟨"lead-3", "eve@example.com", "Eve", "", Lead.active, [], "new", none, 0⟩]

def world : World Unit := { World.fresh () with database := ⟨[], [], leads, []⟩ }

theorem leadsInOrder : world.database.LeadsInOrder := by
  refine ⟨fun r hr => ?_, by decide, by decide⟩
  simp only [world, leads, List.mem_cons, List.not_mem_nil, or_false] at hr
  rcases hr with rfl | rfl | rfl <;> exact ⟨_, rfl⟩

/-- A morning, on a UTC clock. -/
def morning : Calendar.Stamp := .ahead (Calendar.Zone.utcInstant 2024 1 1 8 0) 0

def surroundings : Surroundings Unit := .calm morning (.usual .utc 2)

theorem obliging : surroundings.Obliging :=
  ⟨fun _ _ => rfl, fun _ _ => rfl, by decide, by decide, Int.le_refl 2⟩

theorem day_admitted : morning.Admits 24 := ⟨by decide, by decide⟩

/-- The active leads are told of a post. -/
theorem told_of_post : (surroundings.Obliging ∧ surroundings.clock.isLocal = false ∧
      surroundings.clock.Admits 24 ∧ world.database.funnels = [] ∧
      world.database.executions = [] ∧ world.database.LeadsInOrder) ∧
    ∃ f w₁ created w₂ leads, Stock.create.run surroundings world = (.ok f, w₁) ∧
      (broadcast Trigger.newPostPublished (Context.fields [("post_title", "News")])).run
        surroundings w₁ = (.ok created, w₂) ∧
      List.Forall₂ (fun r l => LeadRow.load r = .ok l) world.database.activeRows leads ∧
      w₁.attempts = world.attempts ∧
      Stock.Distributes f [("post_title", "News")] leads surroundings w₁ w₂ :=
  ⟨⟨obliging, rfl, day_admitted, rfl, rfl, leadsInOrder⟩,
    Stock.post_reaches_active_leads obliging obliging rfl day_admitted rfl rfl leadsInOrder _⟩

end Crowd

namespace Untimely

/-- A lead with a phone. -/
def world : World Unit :=
  { World.fresh () with database := ⟨[], [], Crowd.leads.take 1, []⟩ }

/-- Nothing comes in the way, at the time. -/
def surroundings (time : Calendar.Stamp) : Surroundings Unit := .calm time (.usual .utc 2)

/-- The world after the stock funnel was created and broadcast. -/
def told (time : Calendar.Stamp) : World Unit :=
  ((broadcast Trigger.newPostPublished []).run (surroundings time)
    (Stock.create.run (surroundings time) world).2).2

/-- The last noon of the calendar. -/
def lastNoon : Calendar.Stamp := .ahead (Calendar.Zone.utcInstant 9999 12 31 12 0) 0

def hourLater : Calendar.Stamp := .ahead (lastNoon.wall + Calendar.hour) 0

/-- A morning on a clock whose distance from UTC is unknown. -/
def unplaced : Calendar.Stamp := .floating (Calendar.Zone.utcInstant 2024 1 1 8 0)

/-- A pass an hour after a broadcast on the last day sends the WhatsApp message again, and a
broadcast at a time that cannot be compared sends none. -/
theorem alerted_twice_or_never :
    (hourLater.instant < lastNoon.instant + Calendar.day ∧ (told lastNoon).attempts.length = 1 ∧
      ((processExecutions hourLater).run (surroundings lastNoon)
        (told lastNoon)).2.attempts.length = 2) ∧
    (told unplaced).attempts = [] := by
  decide +kernel

end Untimely

end Nurture
