import Nurture.Engine.Pass

/-!
  Triggers

  An event about a lead starts every active funnel that listens for it. New
  subscriptions and new tags are such events, and a broadcast is one for every
  active lead.
-/

namespace Nurture

variable {σ : Type}

namespace Trigger

def leadSubscribed : String := "lead_subscribed"

/-- The trigger of the stock funnel. -/
def newPostPublished : String := "new_post_published"

/-- The trigger of a new tag. -/
def tagAdded (tag : String) : String := "tag_added:" ++ tag

end Trigger

/-- The identifier of the lead; what is no lead has none. -/
def identified : Reply String → Except Failure String
  | .own id => .ok id
  | .foreign j => .error (.absent j.typeName "id")

/-- The funnels that a lead is running, as far as funnels are to be run once at a time. -/
def runningFunnels (lead : Reply String) : Action σ (List String) := do
  let policy ← Action.policy
  if policy.dedupe then
    let id ← Action.ofExcept (identified lead)
    let reply ← Store.listExecutions (some Status.waiting.name) none (some id)
    let running ← Action.ofExcept (reply.records "funnel_id")
    return running.map (·.funnelId)
  else return []

/-- The execution that starts a funnel for a lead. The values of its context must be
texts. -/
def newExecution (f : Funnel) (start leadId : String) (context : Json.Fields)
    (now : Calendar.Stamp) : Except Failure (Draft Execution) := do
  let nextRunAt ← now.toUtc.mapError .overflow
  let context ←
    (((Validation.textMapping (.obj context)).within (.field "context")).toExcept
      "FunnelExecution").mapError .invalid
  return ⟨none, fun id =>
    { id := id, funnelId := f.id, leadId := leadId, currentNodeId := some start,
      status := .waiting, nextRunAt := nextRunAt.toStamp, history := [], context := context,
      createdAt := none }⟩

/-- Starts a funnel for a lead, unless it has no start or the lead is running it. An
execution that the store does not keep has no identifier. -/
def startFunnel (trigger : String) (lead : Reply String) (context : Json.Fields)
    (running : List String) (now : Calendar.Stamp) (f : Funnel) : Action σ (Option Execution) := do
  match (if f.nodes.isEmpty then none else reference f.start) with
  | none =>
    Action.note [.noStartNode f.id]
    return none
  | some start =>
    let leadId ← Action.ofExcept (identified lead)
    if running.contains f.id then
      Action.note [.alreadyRunning leadId f.id]
      return none
    else
      let draft ← Action.ofExcept (newExecution f start leadId context now)
      let e :=
        match ← Store.createExecution draft with
        | .own e => e
        | .foreign _ => draft.settle Draft.unsettled
      Action.note [.started e.id f.name trigger leadId]
      return some e

/-- Starts the funnels that listen for the trigger, and drives what is due if
`process`. The executions created are the result. A lead is needed only when
there is something to look up or to start. -/
def triggerFunnels (trigger : String) (lead : Reply String) (context : Json.Fields)
    (process : Bool) : Action σ (List Execution) := do
  let reply ← Store.listFunnels
  let all ← Action.ofExcept (reply.records "is_active")
  let funnels := all.filter fun f => f.isActive && f.trigger == trigger
  if funnels.isEmpty then
    Action.note [.noActiveFunnel trigger]
    return []
  else
    -- What the lead is running is looked up once: one trigger starts a funnel at most once.
    let running ← runningFunnels lead
    let now ← Action.clock
    let started ← Action.collect (startFunnel trigger lead context running now) funnels
    let created := started.filterMap id
    if !created.isEmpty && process then
      let _ ← processNow
    return created

/-- Starts the funnels that listen for the trigger, for every active lead, and
then drives what is due. -/
def broadcast (trigger : String) (context : Json.Fields) : Action σ (List Execution) := do
  let reply ← Store.listLeads (some Lead.active)
  let leads ← Action.ofExcept reply.members
  let created ←
    Action.collect (fun l => triggerFunnels trigger (l.map (·.id)) context false) leads
  let created := created.flatten
  Action.note [.broadcast trigger created.length]
  if !created.isEmpty then
    let _ ← processNow
  return created

/-- Tags a lead and, if the tag is new to it, starts the funnels that listen for it. -/
def tagLead (id : String) (tag : Json) : Action σ (Reply Bool) := do
  let added ← Store.addTag id tag
  -- A tag that the lead had already starts nothing.
  if added.isGiven then
    let lead ← Store.getLead id
    match lead.given? with
    | some lead =>
      let _ ← triggerFunnels (Trigger.tagAdded tag.displayText) (lead.map (·.id)) [] true
    | none => pure ()
  return added

/-- Subscribes a lead and starts the funnels that listen for it. The lead stays
subscribed when that fails. -/
def subscribeLead (form : SubscriptionForm) : Action σ (Reply Lead) := do
  let lead ← Store.subscribe form
  match ← Action.attempt (triggerFunnels Trigger.leadSubscribed (lead.map (·.id)) [] true) with
  | .ok _ => pure ()
  | .error cause =>
    match lead with
    | .own l => Action.note [.triggerFailed Trigger.leadSubscribed l.email cause]
    | .foreign j => Action.fail (.absent j.typeName "email")
  return lead

end Nurture
