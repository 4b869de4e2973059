import Nurture.Failure
import Nurture.Json.Dump
import Nurture.Record

/-!
  Executions

  An execution is one run of a funnel for one lead. While it is waiting it knows
  the node at which it goes on and the time from which on it may; its history
  records the nodes it has passed.
-/

namespace Nurture

open Validation Validation.Checked

/-- Whether an execution has ended. -/
inductive Status where
  | waiting
  | completed
  deriving DecidableEq, Repr

def Status.name : Status → String
  | waiting => "waiting"
  | completed => "completed"

def Status.names : List (String × Status) := [Status.waiting, .completed].map fun s => (s.name, s)

def Status.ofName? (name : String) : Option Status :=
  (Status.names.find? fun c => c.1 == name).map (·.2)

@[simp] theorem Status.ofName?_name (s : Status) : Status.ofName? s.name = some s := by
  cases s <;> decide

/-- Values for placeholders, by name. -/
abbrev Context := List (String × String)

/-- A run of a funnel for a lead. -/
structure Execution where
  id : String
  funnelId : String
  leadId : String
  currentNodeId : Option String
  status : Status
  nextRunAt : Calendar.Stamp
  history : List Json.Fields
  context : Context
  createdAt : Option Calendar.Stamp
  deriving Repr

namespace Execution

def isCompleted (e : Execution) : Bool := e.status == .completed

/-- Whether the execution waits for a time that has come. -/
def isDue (e : Execution) (now : Calendar.Stamp) : Bool :=
  !e.isCompleted && e.nextRunAt.instant ≤ now.instant

/-- The time of the field, if it is one. -/
def givenTime? (fs : Json.Fields) : Option Calendar.Stamp :=
  match (fs.get? "next_run_at").map time with
  | some (good t) => some t
  | _ => none

/-- An execution from its fields, given the time from which on it may go on. -/
def checkFields (nextRunAt : Calendar.Stamp) (fs : Json.Fields) : Checked (Draft Execution) :=
  (fun id funnelId leadId node status (_ : Option Calendar.Stamp) history context createdAt =>
      Draft.mk id fun id =>
        Execution.mk id funnelId leadId node status nextRunAt history context createdAt)
    <$> Draft.checkId fs
    <*> required fs "funnel_id" text
    <*> required fs "lead_id" text
    <*> optional fs "current_node_id" text
    <*> defaulted fs "status" .waiting (choice Status.names)
    <*> defaulted fs "next_run_at" none (fun j => (time j).map some)
    <*> defaulted fs "history" [] (listOf mapping)
    <*> defaulted fs "context" [] textMapping
    <*> optional fs "created_at" time

/-- An execution; it may come without identifier, and without a time it may go
on at once. A time that has no UTC form stops the check. -/
def read (now : Calendar.Stamp) (j : Json) : Except Failure (Draft Execution) := do
  let nextRunAt ←
    match j with
    | .obj fs =>
      match givenTime? fs with
      | some t => (t.toUtc.mapError .overflow).map (·.toStamp)
      | none => pure now
    | _ => pure now
  (record "FunnelExecution" (checkFields nextRunAt) j).toExcept "FunnelExecution"
    |>.mapError .invalid

def contextJson (context : Context) : Json := .obj (context.map fun c => (c.1, .str c.2))

def historyJson (history : List Json.Fields) : Json := .arr (history.map .obj)

/-- The history as part of an execution that leaves the library. -/
def dumpedHistory (history : List Json.Fields) : Json := (historyJson history).dumped

def toJson (e : Execution) : Json :=
  .obj [("id", .str e.id), ("funnel_id", .str e.funnelId), ("lead_id", .str e.leadId),
    ("current_node_id", .ofOption e.currentNodeId), ("status", .str e.status.name),
    ("next_run_at", .str e.nextRunAt.jsonText), ("history", dumpedHistory e.history),
    ("context", contextJson e.context), ("created_at", .ofOption (e.createdAt.map (·.jsonText)))]

/-- Whether the history can be dumped. -/
def isDumpable (e : Execution) : Bool := e.history.all Json.Fields.areDumpable

/-- The execution as data that leaves the library. -/
def dump (e : Execution) : Except Failure Json :=
  if e.isDumpable then .ok e.toJson else .error .tooDeep

end Execution

end Nurture
