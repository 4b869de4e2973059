import Nurture.Execution
import Nurture.Funnel.Writing
import Nurture.Json.Equality
import Nurture.Lead
import Nurture.Template

/-!
  Rows

  The tables in which funnels, executions, leads and templates are kept. A row
  holds what its columns can express: nodes, history and tags as data, a status
  as a text, a time as the reading of a UTC clock. A row that is read is checked
  again, so a row may hold values that make every reading of it fail.

  A column keeps what it holds when it is given the same again, and a row none of
  whose columns changes is not written.
-/

namespace Nurture

/-- A kept funnel. -/
structure FunnelRow where
  id : String
  name : String
  trigger : String
  isActive : Bool
  nodes : List Json
  start : Option String
  createdAt : Int

/-- A kept execution. -/
structure ExecutionRow where
  id : String
  funnelId : String
  leadId : String
  currentNodeId : Option String
  status : String
  nextRunAt : Int
  history : Json
  context : Context
  createdAt : Int

/-- A kept lead. -/
structure LeadRow where
  id : String
  email : String
  name : String
  phone : String
  status : String
  tags : List Json
  stage : String
  source : Option String
  createdAt : Int

/-- A kept template. -/
structure TemplateRow where
  template : Template
  createdAt : Int

/-- The tables. -/
structure Database where
  funnels : List FunnelRow
  executions : List ExecutionRow
  leads : List LeadRow
  templates : List TemplateRow

def Database.empty : Database := ⟨[], [], [], []⟩

open Validation in
def FunnelRow.load (r : FunnelRow) : Except Failure Funnel :=
  let fields : Json.Fields :=
    [("id", .str r.id), ("name", .str r.name), ("trigger", .str r.trigger),
     ("is_active", .bool r.isActive), ("nodes", .arr r.nodes), ("start_node_id", .ofOption r.start)]
  ((Funnel.checkFields fields).toExcept "Funnel").map (·.settle r.id) |>.mapError .invalid

def Funnel.toRow (f : Funnel) (createdAt : Int) : FunnelRow :=
  ⟨f.id, f.name, f.trigger, f.isActive, f.nodes.map Node.toJson, f.start, createdAt⟩

open Validation in
def ExecutionRow.load (r : ExecutionRow) : Except Failure Execution := do
  let status ←
    match Status.ofName? r.status with
    | some s => pure s
    | none => .error (.unknownStatus (.str r.status))
  let items ←
    if r.history.isGiven then
      match r.history.members? with
      | some items => pure items
      | none => .error (.notIterable r.history.typeName)
    else pure []
  let history ←
    (((Checked.each mapping items).within (.field "history")).toExcept "FunnelExecution").mapError
      .invalid
  return {
    id := r.id, funnelId := r.funnelId, leadId := r.leadId, currentNodeId := r.currentNodeId,
    status := status, nextRunAt := .ahead r.nextRunAt 0, history := history, context := r.context,
    createdAt := some (.floating r.createdAt) }

/-- The row of an execution, which must have a UTC form. -/
def Execution.toRow (e : Execution) (createdAt : Int) : Except Failure ExecutionRow :=
  (e.nextRunAt.toUtc.mapError .overflow).map fun time =>
    { id := e.id, funnelId := e.funnelId, leadId := e.leadId, currentNodeId := e.currentNodeId,
      status := e.status.name, nextRunAt := time.wall, history := Execution.historyJson e.history,
      context := e.context, createdAt := createdAt }

/-- The data that a row is read as. -/
def LeadRow.fields (r : LeadRow) : Json.Fields :=
  [("id", .str r.id), ("email", .str r.email), ("name", .str r.name), ("phone", .str r.phone),
   ("status", .str r.status), ("tags", .arr r.tags), ("pipeline_stage", .str r.stage),
   ("source", .ofOption r.source)]

def LeadRow.load (r : LeadRow) : Except Failure Lead :=
  (((Lead.checkFields r.fields).toExcept "Lead").mapError .invalid).map fun draft =>
    { draft.settle r.id with createdAt := some (.floating r.createdAt) }

/-- When a row is written: the whole seconds of the database's clock, which a UTC clock
must be able to show. -/
def writingTime (now : Calendar.Stamp) : Except Failure Int :=
  if Calendar.inRange now.instant then .ok (now.instant / Calendar.second * Calendar.second)
  else .error .noRowTime

/-- What a column of data holds after it was given the value. -/
def keptData (held given : Json) : Json := if held.same given then held else given

/-- Rows in the order of their creation; rows of one second keep the order in
which they were added. -/
def inOrder {α : Type} (createdAt : α → Int) (rows : List α) : List α :=
  rows.mergeSort fun a b => createdAt a ≤ createdAt b

/-- Puts a row in the place of the row with its identifier, or at the end. -/
def putRow {α : Type} (id : α → String) (row : α) (rows : List α) : List α :=
  if rows.any fun r => id r == id row then rows.map fun r => if id r == id row then row else r
  else rows ++ [row]

theorem inOrder_perm {α : Type} (createdAt : α → Int) (rows : List α) :
    (inOrder createdAt rows).Perm rows :=
  List.mergeSort_perm rows _

theorem mem_inOrder {α : Type} {createdAt : α → Int} {rows : List α} {r : α} :
    r ∈ inOrder createdAt rows ↔ r ∈ rows :=
  (inOrder_perm createdAt rows).mem_iff

end Nurture
