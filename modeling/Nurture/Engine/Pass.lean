import Nurture.Engine.Walk
import Nurture.Store.Funnels
import Nurture.Store.Leads

/-!
  Passes

  A pass drives every execution that is due, once. An execution whose driving
  breaks off is counted as failed and keeps its row; the others are not
  affected.
-/

namespace Nurture

variable {σ : Type}

/-- Drives one execution of a pass, whatever happens to it. -/
def processDue (funnels : List Funnel) (leads : List Lead) (now : Calendar.Stamp) (e : Execution) :
    Action σ Departure := do
  let funnel := funnels.find? fun f => f.id == e.funnelId
  let lead := leads.find? fun l => l.id == e.leadId
  match ← Action.attempt (processExecution e funnel lead now) with
  | .ok departure => return departure
  | .error cause =>
    Action.note [.aborted e.id cause]
    return .failed

/-- The executions that are due. A time whose distance from UTC is unknown cannot be
compared with theirs. -/
def dueAt (now : Calendar.Stamp) (waiting : List Execution) : Except Failure (List Execution) :=
  if now.isLocal && waiting.any (!·.isCompleted) then .error (.unrelated .compared)
  else .ok (waiting.filter (·.isDue now))

/-- Drives every execution that is due at `now`. -/
def processExecutions (now : Calendar.Stamp) : Action σ PassReport := do
  let reply ← Store.listExecutions (some Status.waiting.name) none none
  let waiting ← Action.ofExcept (reply.records "is_completed")
  let due ← Action.ofExcept (dueAt now waiting)
  if due.isEmpty then return .empty
  else
    -- All of them are read before the first execution is driven.
    let reply ← Store.listFunnels
    let funnels ← Action.ofExcept (reply.records "id")
    let reply ← Store.allLeads
    let leads ← Action.ofExcept (reply.records "id")
    let departures ← Action.collect (processDue funnels leads now) due
    let report := PassReport.ofDepartures departures
    Action.note [.passed report]
    return report

def processNow : Action σ PassReport := do
  let now ← Action.clock
  processExecutions now

/-- The record with the identifier, if one is given. -/
def lookUp {α : Type} (get : String → Action σ (Reply (Option α))) :
    Option String → Action σ (Reply (Option α))
  | some id => get id
  | none => pure (.own none)

/-- Drives one kept execution, with the funnel and the lead of the identifiers. -/
def processKept (id : String) (funnelId leadId : Option String) (now : Calendar.Stamp) :
    Action σ Departure := do
  let e ← Store.getExecution id
  let funnel ← lookUp Store.getFunnel funnelId
  let lead ← lookUp Store.getLead leadId
  match e.orNull with
  | .foreign j => Action.fail (.absent j.typeName "id")
  | .own e =>
    match funnel.orNull, lead.orNull with
    | .foreign .null, _ | _, .foreign .null => processExecution e none none now
    | .foreign j, _ => Action.fail (.absent j.typeName "get_node")
    | _, .foreign j => Action.fail (.absent j.typeName "name")
    | .own f, .own lead => processExecution e (some f) (some lead) now

end Nurture
