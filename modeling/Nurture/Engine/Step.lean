import Nurture.Engine.Condition
import Nurture.Engine.Placeholder
import Nurture.Engine.SendWindow
import Nurture.Engine.StepResult
import Nurture.Store.Templates

/-!
  Steps

  Running one node for one execution. A node hands at most one message to the
  outside, and its result says whether that was accepted. It changes nothing in
  the store.
-/

namespace Nurture

/-- What a node is run for. -/
structure StepContext where
  execution : Execution
  lead : Lead
  now : Calendar.Stamp

/-- The text of an optional field, unless it is empty. -/
def filled (s : Option String) : Option String := s.filter (· ≠ "")

namespace Step

variable {σ : Type}

/-- The provider template that makes WhatsApp senders send the plain text. -/
def plainTextOnly : String := "FORCE_FALLBACK"

/-- A template filled for the execution and its lead. -/
def render (ctx : StepContext) (template : String) : Action σ String := do
  let policy ← Action.policy
  return substitute policy.defaultName template ctx.execution.context ctx.lead

/-- Runs an email node: it sends when it has a subject and a content. -/
def email (ctx : StepContext) (nodeId : String) (data : EmailData) (next : Option String) :
    Action σ StepResult := do
  match filled data.subject, filled data.content with
  | some subject, some content =>
    let subject ← render ctx subject
    let body ← render ctx content
    match ← Action.deliver (.email ctx.lead.email subject body) with
    | none => return .advanced next true
    | some cause =>
      Action.note [.emailFailed nodeId ctx.lead.email cause]
      return .failed ("Email to " ++ ctx.lead.email ++ " failed: " ++ cause.message) true
  | _, _ =>
    Action.note [.emailIncomplete nodeId]
    return .advanced next false

/-- The text that a WhatsApp node sends, if it has one: that of the template it
refers to, else its own. -/
def whatsAppText (ctx : StepContext) (nodeId : String) (data : WhatsAppData) :
    Action σ (Option String) := do
  match filled data.templateId with
  | some id =>
    let reply ← Store.getTemplate id
    match ← Action.ofExcept (reply.record? "content") with
    | some template => some <$> render ctx template.content
    | none =>
      Action.note [.noTemplate id nodeId]
      return none
  | none =>
    match filled data.content with
    | some content => some <$> render ctx content
    | none => return none

/-- The window to wait for, if the node has a send time and its window is not open. -/
def windowToAwait (ctx : StepContext) (data : WhatsAppData) (policy : Policy) :
    Except Failure (Option (String × Calendar.Moment)) :=
  match filled data.sendTime with
  | none => .ok none
  | some sendTime => do
    let isOpen ←
      SendWindow.isOpen sendTime ctx.execution.nextRunAt ctx.now policy.zone policy.tolerance
        policy.grace
    if isOpen then return none
    else return some (sendTime, ← SendWindow.next sendTime ctx.now policy.zone)

/-- Runs a WhatsApp node: it waits for its window, and sends when the lead has a
phone and there is a text. -/
def whatsApp (ctx : StepContext) (nodeId : String) (data : WhatsAppData) (next : Option String) :
    Action σ StepResult := do
  let policy ← Action.policy
  -- The window comes first: an execution waits for it even if there is nothing to send.
  match ← Action.ofExcept (windowToAwait ctx data policy) with
  | some (sendTime, window) =>
    Action.note [.awaitingWindow nodeId sendTime window]
    return .suspended nodeId window.toStamp
  | none =>
    if ctx.lead.phone = "" then
      Action.note [.noPhone ctx.lead.id nodeId]
      return .advanced next false
    else
      match ← whatsAppText ctx nodeId data with
      | none => return .advanced next false
      | some text =>
        match ← Action.deliver (.whatsApp ctx.lead.phone plainTextOnly [] text) with
        | none => return .advanced next true
        | some cause =>
          Action.note [.whatsAppFailed nodeId ctx.lead.phone cause]
          return .failed ("WhatsApp to " ++ ctx.lead.phone ++ " failed: " ++ cause.message) true

/-- Runs a delay node: the execution is parked, unless nothing comes after. -/
def delay (ctx : StepContext) (data : DelayData) (next : Option String) : Action σ StepResult := do
  let policy ← Action.policy
  match reference next with
  | none => return .advanced none false
  | some nodeId =>
    let hours := if data.hours = 0 then policy.defaultHours else data.hours
    let span ← Action.ofExcept ((Calendar.Span.ofHours hours).mapError .overflow)
    let resumeAt ← Action.ofExcept ((ctx.now.add span).mapError .overflow)
    return .suspended nodeId resumeAt

/-- Runs a condition node: it branches. -/
def condition (ctx : StepContext) (data : ConditionData) (ifTrue ifFalse : Option String) :
    Action σ StepResult :=
  pure (.advanced (if data.holds ctx.lead then ifTrue else ifFalse) false)

def execute (ctx : StepContext) (n : Node) : Action σ StepResult :=
  match n.task with
  | .email data next => email ctx n.id data next
  | .whatsApp data next => whatsApp ctx n.id data next
  | .delay data next => delay ctx data next
  | .condition data ifTrue ifFalse => condition ctx data ifTrue ifFalse

/-- Calls the handler of a node, whose answer is asked for its outcome. -/
def perform (ctx : StepContext) (n : Node) : Action σ StepResult := do
  let reply ← Action.guarded .runNode (execute ctx n)
  Action.ofExcept (reply.record "outcome")

/-- Runs a node of no particular kind: there is nothing it could do. -/
def executeFrame (_ : NodeFrame) : Action σ StepResult := Action.fail (.noHandler "BaseNode")

end Step

end Nurture
