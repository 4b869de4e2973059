import Nurture.Api.Route
import Nurture.Api.Target
import Nurture.Execution
import Nurture.Funnel.Reading
import Nurture.Lead
import Nurture.Template

/-!
  Commands

  What a request asks for, once its query and its body have been checked. The
  issues found name the query or the body as their first place.
-/

namespace Nurture.Api

open Validation Validation.Checked

/-- A request for a subscription. -/
structure SubscribeRequest where
  email : String
  source : String
  name : Option String
  phone : Option String
  deriving DecidableEq, Repr

/-- A request for a tag. -/
structure TagRequest where
  tag : String
  deriving DecidableEq, Repr

/-- A request to fire a trigger for one lead. -/
structure TriggerRequest where
  trigger : String
  leadId : String
  context : Option Context
  deriving Repr

/-- A request to fire a trigger for every active lead. -/
structure BroadcastRequest where
  trigger : String
  context : Option Context
  deriving Repr

def SubscribeRequest.checkFields (fs : Json.Fields) : Checked SubscribeRequest :=
  SubscribeRequest.mk
    <$> required fs "email" (textOf 3)
    <*> defaulted fs "source" "api" text
    <*> optional fs "name" text
    <*> optional fs "phone" text

def SubscribeRequest.check : Json → Checked SubscribeRequest :=
  record "SubscribeRequest" SubscribeRequest.checkFields

def TagRequest.check : Json → Checked TagRequest :=
  record "TagRequest" fun fs => TagRequest.mk <$> required fs "tag" (textOf 1)

def TriggerRequest.check : Json → Checked TriggerRequest :=
  record "TriggerRequest" fun fs =>
    TriggerRequest.mk
      <$> required fs "trigger" (textOf 1)
      <*> required fs "lead_id" text
      <*> optional fs "context" textMapping

def BroadcastRequest.check : Json → Checked BroadcastRequest :=
  record "BroadcastRequest" fun fs =>
    BroadcastRequest.mk <$> required fs "trigger" (textOf 1) <*> optional fs "context" textMapping

/-- The response to a request for a tag. -/
structure TagResponse where
  leadId : String
  tag : String
  added : Bool
  deriving DecidableEq, Repr

/-- The response to a request to fire a trigger. -/
structure TriggerResponse where
  trigger : String
  created : Int
  executionIds : List String
  deriving DecidableEq, Repr

def TagResponse.check : Json → Checked TagResponse :=
  record "TagResponse" fun fs =>
    TagResponse.mk <$> required fs "lead_id" text <*> required fs "tag" text
      <*> required fs "added" boolean

def TriggerResponse.check : Json → Checked TriggerResponse :=
  record "TriggerResponse" fun fs =>
    TriggerResponse.mk
      <$> required fs "trigger" text
      <*> required fs "created" integer
      <*> required fs "execution_ids" (listOf text)

def SubscribeRequest.toJson (r : SubscribeRequest) : Json :=
  .obj [("email", .str r.email), ("source", .str r.source), ("name", .ofOption r.name),
    ("phone", .ofOption r.phone)]

def TagRequest.toJson (r : TagRequest) : Json := .obj [("tag", .str r.tag)]

def contextJson : Option Context → Json
  | some context => Execution.contextJson context
  | none => .null

def TriggerRequest.toJson (r : TriggerRequest) : Json :=
  .obj [("trigger", .str r.trigger), ("lead_id", .str r.leadId), ("context", contextJson r.context)]

def BroadcastRequest.toJson (r : BroadcastRequest) : Json :=
  .obj [("trigger", .str r.trigger), ("context", contextJson r.context)]

def TagResponse.toJson (r : TagResponse) : Json :=
  .obj [("lead_id", .str r.leadId), ("tag", .str r.tag), ("added", .bool r.added)]

def TriggerResponse.toJson (r : TriggerResponse) : Json :=
  .obj [("trigger", .str r.trigger), ("created", .int r.created),
    ("execution_ids", .ofTexts r.executionIds)]

/-- What a checked request asks for. -/
inductive Command where
  | page
  | health
  | listFunnels
  | saveFunnel (draft : Draft Funnel)
  | createStockFunnel
  | getFunnel (id : String)
  | deleteFunnel (id : String)
  | listTemplates
  | saveTemplate (draft : Draft Template)
  | listExecutions (status : Option Status) (funnelId leadId : Option String)
  | processExecutions
  | getExecution (id : String)
  | trigger (request : TriggerRequest)
  | broadcast (request : BroadcastRequest)
  | listLeads (status : Option String)
  | subscribe (request : SubscribeRequest)
  | getLead (id : String)
  | addTag (id : String) (request : TagRequest)

/-- Whether the endpoint expects a body. -/
def Endpoint.takesBody : Endpoint → Bool
  | saveFunnel | saveTemplate | trigger | broadcast | subscribe | addTag => true
  | _ => false

/-- Checks a body. One that is missing or nothing is missed, and every record in it
is asked for its fields only. -/
def checkBody {α : Type} (check : Json → Checked α) (body : Option Json) : Checked α :=
  let missed : Checked α := bad [⟨.missing, [.field "body"], .null⟩]
  match body with
  | none | some .null => missed
  | some j =>
    match (check j).within (.field "body") with
    | good a => good a
    | bad issues =>
      bad (issues.map fun i =>
        match i.complaint with
        | .notRecord _ => { i with complaint := .notFields }
        | _ => i)

/-- Checks a parameter that may be missing. -/
def checkParameter {α : Type} (q : Query) (key : String) (check : Json → Checked α) :
    Checked (Option α) :=
  match q.get? key with
  | none => good none
  | some s => map some (((check (.str s)).within (.field key)).within (.field "query"))

/-- The command that a request to the endpoint stands for. -/
def Endpoint.command (e : Endpoint) (id : String) (q : Query) (body : Option Json) :
    Checked Command :=
  match e with
  | page => good .page
  | health => good .health
  | listFunnels => good .listFunnels
  | saveFunnel => map .saveFunnel (checkBody Funnel.check body)
  | createStockFunnel => good .createStockFunnel
  | getFunnel => good (.getFunnel id)
  | deleteFunnel => good (.deleteFunnel id)
  | listTemplates => good .listTemplates
  | saveTemplate => map .saveTemplate (checkBody Template.check body)
  | listExecutions =>
    Command.listExecutions
      <$> checkParameter q "status" (choice Status.names)
      <*> checkParameter q "funnel_id" text
      <*> checkParameter q "lead_id" text
  | processExecutions => good .processExecutions
  | getExecution => good (.getExecution id)
  | trigger => map .trigger (checkBody TriggerRequest.check body)
  | broadcast => map .broadcast (checkBody BroadcastRequest.check body)
  | listLeads => map .listLeads (checkParameter q "status" text)
  | subscribe => map .subscribe (checkBody SubscribeRequest.check body)
  | getLead => good (.getLead id)
  | addTag => map (.addTag id) (checkBody TagRequest.check body)

end Nurture.Api
