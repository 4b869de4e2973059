import Nurture.Api.Access
import Nurture.Api.Command
import Nurture.Api.Exchange
import Nurture.Stock
import Nurture.Worker

/-!
  The server

  A request is answered in steps, each of which may be the last: the route is
  looked up, the body is read, the key is asked for, query and body are checked,
  and the command is performed. Whatever stops a command that does not answer
  for it is answered as an internal error.
-/

namespace Nurture.Api

open Validation

variable {σ : Type}

/-- The response about executions that a trigger started. -/
def triggerResponse (trigger : String) (created : List Execution) : Response :=
  .ok (TriggerResponse.toJson ⟨trigger, created.length, created.map (·.id)⟩)

/-! ## Records in responses

A record comes from the store, or from outside in its place; the latter is checked
before it is shown. -/

/-- A kind of records in responses: how data is checked for being one, and how one
is written. -/
structure Shape (α : Type) where
  read : Json → Except Failure α
  write : α → Except Failure Json

/-- Checks data for being a record, which need not bring an identifier. -/
def readDraft {α : Type} (check : Json → Checked (Draft α)) (j : Json) : Except Failure α :=
  (((check j).toExcept "").mapError .invalid).map (·.settle Draft.unsettled)

/-- Funnels in responses. -/
def funnelShape : Shape Funnel := ⟨readDraft Funnel.check, Funnel.dump⟩

def templateShape : Shape Template := ⟨readDraft Template.check, fun t => .ok t.toJson⟩

def leadShape : Shape Lead := ⟨readDraft Lead.check, fun l => .ok l.toJson⟩

def executionShape (now : Calendar.Stamp) : Shape Execution :=
  ⟨fun j => (Execution.read now j).map (·.settle Draft.unsettled), Execution.dump⟩

/-- Whether something was done, in responses. -/
def flagShape : Shape Bool :=
  ⟨fun j => ((boolean j).toExcept "").mapError .invalid, fun b => .ok (.bool b)⟩

namespace Shape

variable {α : Type}

def one (shape : Shape α) : Reply α → Except Failure Json
  | .own a => shape.write a
  | .foreign j => shape.read j >>= shape.write

def many (shape : Shape α) : Reply (List α) → Except Failure (List Json)
  | .own items => items.mapM shape.write
  | .foreign (.arr items) => items.mapM fun j => shape.read j >>= shape.write
  | .foreign j => .error (.notIterable j.typeName)

/-- The response that holds what was created. -/
def created (shape : Shape α) (reply : Reply α) : Action σ Response := do
  return .created (← Action.ofExcept (shape.one reply))

/-- The response that holds a record, or tells that there is none. -/
def found (shape : Shape α) (kind : String) (reply : Reply (Option α)) : Action σ Response := do
  match reply.given? with
  | some reply => return .ok (← Action.ofExcept (shape.one reply))
  | none => return .notFound kind

/-- The records of a reply under a name. -/
def listing (shape : Shape α) (name : String) (reply : Reply (List α)) :
    Action σ Json.Fields := do
  return [(name, .arr (← Action.ofExcept (shape.many reply)))]

end Shape

/-! ## Commands -/

def contextFields (context : Option Context) : Json.Fields :=
  (context.getD []).map fun c => (c.1, .str c.2)

/-- The form that a request for a subscription fills in. -/
def SubscribeRequest.form (r : SubscribeRequest) : SubscriptionForm :=
  { email := .str r.email, source := .str r.source, name := .ofOption r.name,
    phone := .ofOption r.phone }

/-- What is told to a client about a value at fault. -/
def faultText : Failure → String
  | .invalid report => report.summary
  | cause => cause.message

/-- Subscribes a lead; a value at fault is answered for. -/
def performSubscribe (r : SubscribeRequest) : Action σ Response := do
  match ← Action.attempt (subscribeLead r.form) with
  | .ok lead => leadShape.created lead
  | .error cause =>
    if cause.isValueFault then return .refusal 400 (faultText cause) else Action.fail cause

/-- Fires a trigger for every active lead; any failure is answered for. -/
def performBroadcast (r : BroadcastRequest) : Action σ Response := do
  match ← Action.attempt (broadcast r.trigger (contextFields r.context)) with
  | .ok created => return triggerResponse r.trigger created
  | .error cause =>
    Action.note [.broadcastFailed r.trigger cause]
    return .refusal 500 ("Internal server error: " ++ cause.message)

/-- Fires a trigger for a lead, which must be there. -/
def performTrigger (r : TriggerRequest) : Action σ Response := do
  let reply ← Store.getLead r.leadId
  match reply.given? with
  | none => return .notFound "Lead"
  | some lead =>
    let created ← triggerFunnels r.trigger (lead.map (·.id)) (contextFields r.context) true
    return triggerResponse r.trigger created

/-- Tags a lead, which must be there. -/
def performAddTag (id : String) (r : TagRequest) : Action σ Response := do
  let reply ← Store.getLead id
  match reply.given? with
  | none => return .notFound "Lead"
  | some _ =>
    let added ← tagLead id (.str r.tag)
    let flag ← Action.ofExcept (flagShape.one added)
    return .ok (.obj [("lead_id", .str id), ("tag", .str r.tag), ("added", flag)])

/-- Lists executions, with their number. -/
def performListExecutions (status : Option Status) (funnelId leadId : Option String) :
    Action σ Response := do
  let now ← Action.clock
  let reply ← Store.listExecutions (status.map (·.name)) funnelId leadId
  let executions ← Action.ofExcept ((executionShape now).many reply)
  return .ok (.obj [("executions", .arr executions), ("total", .int executions.length)])

/-- The health of the server: that it answers, and whether the worker runs. -/
def health (worker : Worker.State) : Json :=
  .obj [("status", .str "ok"), ("worker", .str worker.word)]

def Command.perform (worker : Worker.State) : Command → Action σ Response
  | page => pure ⟨200, .nothing⟩
  | health => pure (.ok (Api.health worker))
  | listFunnels => do
    return .ok (.obj (← funnelShape.listing "funnels" (← Store.listFunnels)))
  | saveFunnel draft => do funnelShape.created (← Store.saveFunnel draft)
  | createStockFunnel => do funnelShape.created (.own (← Stock.create))
  | getFunnel id => do funnelShape.found "Funnel" (← Store.getFunnel id)
  | deleteFunnel id => do
    let deleted ← Store.deleteFunnel id
    return if deleted.isGiven then ⟨204, .nothing⟩ else .notFound "Funnel"
  | listTemplates => do
    return .ok (.obj (← templateShape.listing "templates" (← Store.listTemplates)))
  | saveTemplate draft => do templateShape.created (← Store.saveTemplate draft)
  | listExecutions status funnelId leadId => performListExecutions status funnelId leadId
  | processExecutions => do
    let report ← processNow
    return .ok report.toJson
  | getExecution id => do
    let now ← Action.clock
    (executionShape now).found "Execution" (← Store.getExecution id)
  | trigger r => performTrigger r
  | broadcast r => performBroadcast r
  | listLeads status => do
    return .ok (.obj (← leadShape.listing "leads" (← Store.listLeads status)))
  | subscribe r => performSubscribe r
  | getLead id => do leadShape.found "Lead" (← Store.getLead id)
  | addTag id r => performAddTag id r

/-- The body of a request to an endpoint that takes one. A body that is not JSON is
a text. -/
def Request.readBody (r : Request) (e : Endpoint) : Except Json.ReadFault (Option Json) :=
  if e.takesBody && r.body ≠ "" then
    if r.isJson then (Json.readBytes r.body).map some else .ok (some (.str r.body))
  else .ok none

/-- The response to a request whose body cannot be read. -/
def bodyFault : Json.ReadFault → Response
  | .malformed offset =>
    .unprocessable [⟨.malformed, [.field "body", .index offset], .obj []⟩]
  | .excessive => .refusal 400 "There was an error parsing the body"

/-- Asks a request to a route for the key, if the route is guarded. -/
def Route.grant (r : Route) (env : Environment) (request : Request) :
    Except Failure (Except Denial Unit) :=
  if r.guarded then do
    let configured := configuredKey env
    let carried ← carriedKey configured (.ofOption (request.header? keyHeader))
    return (Api.grant configured carried).map fun _ => ()
  else .ok (.ok ())

/-- Performs a command; what stops it is answered as an internal error. -/
def Command.answer (worker : Worker.State) (c : Command) : Action σ Response := do
  match ← Action.attempt (c.perform worker) with
  | .ok response => return response.sent
  | .error _ => return .internalError

/-- Answers a request to a route. -/
def Route.respond (env : Environment) (worker : Worker.State) (r : Route) (id : String)
    (request : Request) : Action σ Response :=
  match request.readBody r.endpoint with
  | .error fault => pure (bodyFault fault)
  | .ok body =>
    match r.grant env request with
    | .error _ => pure .internalError
    | .ok (.error denial) => pure (.refusal denial.status denial.message)
    | .ok (.ok ()) =>
      match r.endpoint.command id request.query body with
      | .bad issues => pure (Response.unprocessable issues).sent
      | .good command => command.answer worker

/-- The response without what it holds, if the method asks for none of that. -/
def Response.forMethod (r : Response) (method : String) : Response :=
  if method = "HEAD" then { r with content := .nothing } else r

/-- The response to a request that leads to no route. -/
def Route.Destination.refusal : Route.Destination → Response
  | otherEnd => ⟨307, .nothing⟩
  | otherMethod => .refusal 405 "Method Not Allowed"
  | _ => .refusal 404 "Not Found"

/-- Answers a request. -/
def respond (env : Environment) (worker : Worker.State) (request : Request) : Action σ Response :=
  match Route.lookup request.method request.path with
  | .found r id => r.respond env worker id request
  | other => pure (other.refusal.forMethod request.method)

/-- The title of the server. -/
def title : String := "Funnel Engine API"

end Nurture.Api
