import Nurture.Engine.Report
import Nurture.Failure

/-!
  The journal

  Everything that is written down while the engine works, as events. Each event
  has a level and a wording.
-/

namespace Nurture.Journal

/-- How grave an event is. -/
inductive Level where
  | debug
  | info
  | warning
  | error
  deriving DecidableEq, Repr

def Level.name : Level → String
  | debug => "DEBUG"
  | info => "INFO"
  | warning => "WARNING"
  | error => "ERROR"

/-- What may happen to one execution in a pass. -/
inductive ExecutionEvent where
  | orphaned (funnelId : String)
  | nodeMissing (nodeId funnelId : String)
  | looping (visited : Nat) (funnelId : String)
  | nodeFailed (nodeId error : String)
  | suspended (time : Calendar.Stamp) (nodeId : String)
  | completed (funnelName : String)
  deriving DecidableEq, Repr

/-- What happened. -/
inductive Event where
  | noActiveFunnel (trigger : String)
  | noStartNode (funnelId : String)
  | alreadyRunning (leadId funnelId : String)
  | started (executionId funnelName trigger leadId : String)
  | broadcast (trigger : String) (count : Nat)
  | triggerFailed (trigger email : String) (cause : Failure)
  | aborted (executionId : String) (cause : Failure)
  | passed (report : PassReport)
  | execution (executionId leadId : String) (event : ExecutionEvent)
  | funnelSaved (created : Bool) (id name : String)
  | funnelDeleted (id : String)
  | executionCreated (id funnelId leadId : String)
  | subscribed (email : String) (source : Option String)
  | resubscribed (email : String)
  | noLeadToTag (leadId : String)
  | tagAdded (tag : Json) (leadId : String)
  | leadDeleted (id : String)
  | templateSaved (id title : String)
  | stockFunnelCreated (id : String)
  | emailIncomplete (nodeId : String)
  | emailFailed (nodeId email : String) (cause : Failure)
  | awaitingWindow (nodeId sendTime : String) (window : Calendar.Moment)
  | noPhone (leadId nodeId : String)
  | noTemplate (templateId nodeId : String)
  | whatsAppFailed (nodeId phone : String) (cause : Failure)
  | emailShown (recipient : String) (subject : Json) (size : Nat)
  | whatsAppShown (recipient template : String) (text : Json)
  | emailSent (recipient : String)
  | templateMessageSent (template recipient : String)
  | templateMessageFailed (template recipient : String) (cause : Failure)
  | textMessageSent (recipient : String)
  | workerStarted (interval : Int)
  | workerPass (report : PassReport)
  | workerError (cause : Failure)
  | workerStopped
  | workerAlreadyRunning
  | serverStarted
  | serverStopped
  | broadcastFailed (trigger : String) (cause : Failure)

def ExecutionEvent.level : ExecutionEvent → Level
  | orphaned _ | nodeFailed .. => .warning
  | nodeMissing .. | looping .. => .error
  | suspended .. | completed _ => .info

def ExecutionEvent.text : ExecutionEvent → String
  | orphaned funnelId => "Funnel " ++ funnelId ++ " or lead missing, completing execution"
  | nodeMissing nodeId funnelId =>
    "Node " ++ nodeId ++ " not found in funnel " ++ funnelId ++ ", completing execution"
  | looping visited funnelId =>
    "Visited " ++ toString visited ++ " nodes without suspending, funnel " ++ funnelId
      ++ " loops; completing"
  | nodeFailed nodeId error => "Node " ++ nodeId ++ " failed, retrying on a later pass: " ++ error
  | suspended time nodeId =>
    "Suspended until " ++ time.spacedText ++ ", resuming at node " ++ nodeId
  | completed funnelName => "Completed funnel " ++ funnelName

/-- The first eight characters of an identifier. -/
def shortId (id : String) : String := String.ofList (id.toList.take 8)

/-- A line about an execution, which names the execution and its lead. -/
def executionLine (executionId leadId line : String) : String :=
  "[execution_id=" ++ shortId executionId ++ "] [lead=" ++ shortId leadId ++ "] " ++ line

namespace Event

def level : Event → Level
  | execution _ _ event => event.level
  | noActiveFunnel _ | executionCreated .. | emailIncomplete _ | awaitingWindow .. | noPhone ..
  | workerPass _ => .debug
  | noStartNode _ | noLeadToTag _ | noTemplate .. | templateMessageFailed ..
  | workerAlreadyRunning => .warning
  | triggerFailed .. | aborted .. | emailFailed .. | whatsAppFailed .. | workerError _
  | broadcastFailed .. => .error
  | _ => .info

def text : Event → String
  | noActiveFunnel trigger => "No active funnel for trigger " ++ trigger
  | noStartNode funnelId => "Funnel " ++ funnelId ++ " has no start node, skipping"
  | alreadyRunning leadId funnelId =>
    "Lead " ++ leadId ++ " already runs funnel " ++ funnelId ++ ", skipping"
  | started executionId funnelName trigger leadId =>
    "Execution " ++ executionId ++ " created for funnel " ++ funnelName ++ " (trigger: " ++ trigger
      ++ ", lead: " ++ leadId ++ ")"
  | broadcast trigger count =>
    "Broadcast " ++ trigger ++ " → " ++ toString count ++ " executions"
  | triggerFailed trigger email cause =>
    "Failed to trigger " ++ trigger ++ " for " ++ email ++ ": " ++ cause.message
  | aborted executionId cause => "Execution " ++ executionId ++ " aborted: " ++ cause.message
  | passed report => report.text
  | execution executionId leadId event => executionLine executionId leadId event.text
  | funnelSaved created id name =>
    "Funnel " ++ (if created then "created" else "updated") ++ " → " ++ id ++ " (" ++ name ++ ")"
  | funnelDeleted id => "Funnel deleted → " ++ id
  | executionCreated id funnelId leadId =>
    "Execution created → " ++ id ++ " (funnel " ++ funnelId ++ ", lead " ++ leadId ++ ")"
  | subscribed email source =>
    "Lead subscribed → " ++ email ++ " (source: " ++ source.getD "None" ++ ")"
  | resubscribed email => "Lead re-subscribed → " ++ email
  | noLeadToTag leadId => "Cannot tag missing lead " ++ leadId
  | tagAdded tag leadId => "Tag " ++ tag.itemText ++ " added → lead " ++ leadId
  | leadDeleted id => "Lead deleted → " ++ id
  | templateSaved id title => "WhatsApp template saved → " ++ id ++ " (" ++ title ++ ")"
  | stockFunnelCreated id => "Default post-update funnel created → " ++ id
  | emailIncomplete nodeId => "Email node " ++ nodeId ++ " has no subject/content, passing through"
  | emailFailed nodeId email cause =>
    "Email node " ++ nodeId ++ " failed for " ++ email ++ ": " ++ cause.message
  | awaitingWindow nodeId sendTime window =>
    "WhatsApp node " ++ nodeId ++ " waits for window " ++ sendTime ++ " → " ++ window.spacedText
  | noPhone leadId nodeId => "Lead " ++ leadId ++ " has no phone, skipping WhatsApp node " ++ nodeId
  | noTemplate templateId nodeId =>
    "WhatsApp template " ++ templateId ++ " not found (node " ++ nodeId ++ ")"
  | whatsAppFailed nodeId phone cause =>
    "WhatsApp node " ++ nodeId ++ " failed for " ++ phone ++ ": " ++ cause.message
  | emailShown recipient subject size =>
    "[email] to=" ++ recipient ++ " subject=" ++ subject.itemText
      ++ " (" ++ toString size ++ " chars)"
  | whatsAppShown recipient template text =>
    "[whatsapp] to=" ++ recipient ++ " template=" ++ template ++ " text=" ++ text.itemText
  | emailSent recipient => "Email sent → " ++ recipient
  | templateMessageSent template recipient =>
    "WhatsApp template " ++ template ++ " sent → " ++ recipient
  | templateMessageFailed template recipient cause =>
    "Template " ++ template ++ " failed for " ++ recipient ++ ", falling back to text: "
      ++ cause.message
  | textMessageSent recipient => "WhatsApp text sent → " ++ recipient
  | workerStarted interval => "Funnel worker started (poll every " ++ toString interval ++ "s)"
  | workerPass report => "Worker pass: " ++ report.toJson.itemText
  | workerError cause => "Error in funnel worker: " ++ cause.message
  | workerStopped => "Funnel worker stopped"
  | workerAlreadyRunning => "Funnel worker already running"
  | serverStarted => "API server started"
  | serverStopped => "API server stopped"
  | broadcastFailed trigger cause => "Error broadcasting " ++ trigger ++ ": " ++ cause.message

/-- The event with its level. -/
def line (e : Event) : String := e.level.name ++ " " ++ e.text

end Event

end Nurture.Journal
