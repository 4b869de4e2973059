import Nurture.Action
import Nurture.Store.Column

/-!
  The store of executions

  An execution is created once; afterwards only its node, status, time and
  history change, by patches. A patch is applied as a whole or not at all. Its
  values may be anything that the columns can express, so a row may come to hold
  values that make every reading of it fail.
-/

namespace Nurture

/-- A value given to a column: data, or a time. -/
inductive PatchValue where
  | data (j : Json)
  | time (t : Calendar.Stamp)

/-- New values for columns of an execution, by name. -/
abbrev ExecutionPatch := List (String × PatchValue)

namespace ExecutionPatch

/-- The columns that a patch may change. -/
def columns : List String := ["current_node_id", "status", "next_run_at", "history"]

/-- The names in a patch that are no such columns, in order. -/
def unknown (p : ExecutionPatch) : List String :=
  ((p.map (·.1)).filter fun key => !columns.contains key).mergeSort fun a b => decide (a ≤ b)

def get? (p : ExecutionPatch) (key : String) : Option PatchValue :=
  (p.find? fun f => f.1 == key).map (·.2)

/-- The patch that completes an execution. -/
def complete (history : List Json.Fields) : ExecutionPatch :=
  [("status", .data (.str Status.completed.name)), ("current_node_id", .data .null),
   ("history", .data (Execution.historyJson history))]

/-- The patch that parks an execution at a node until a time. -/
def park (node : String) (resumeAt : Calendar.Stamp) (history : List Json.Fields) :
    ExecutionPatch :=
  [("current_node_id", .data (.str node)), ("next_run_at", .time resumeAt),
   ("history", .data (Execution.historyJson history))]

end ExecutionPatch

namespace ExecutionRow

/-- The text that a column of text holds after it was given the value. -/
def textOf (held : Option String) : PatchValue → Except Failure (Option String)
  | .data j => Column.given? held j
  | .time t => (t.toUtc.mapError .overflow).map fun m => some m.spacedText

/-- The time that the column holds after it was given the value. -/
def timeOf : PatchValue → Except Failure (Option Int)
  | .time t => (t.toUtc.mapError .overflow).map fun m => some m.wall
  | .data .null => .ok none
  | .data _ => .error .statement

/-- The data that the column of the history holds after it was given the value. -/
def historyOf (held : Json) : PatchValue → Except Failure Json
  | .data j => .ok (keptData held j)
  | .time _ => .error .statement

/-- The result of `f` on the value of a column in a patch, or what the column
holds already. -/
def columnOr {α : Type} (p : ExecutionPatch) (key : String) (held : α)
    (f : PatchValue → Except Failure α) : Except Failure α :=
  match p.get? key with
  | some v => f v
  | none => .ok held

/-- Whether the value changes a column that holds `held`; a time always does. -/
def changes (held : Json) : PatchValue → Bool
  | .data j => !held.same j
  | .time _ => true

/-- Whether a patch changes a column. -/
def differsAt (p : ExecutionPatch) (key : String) (held : Json) : Bool :=
  (p.get? key).any (changes held)

/-- Whether a patch changes the column of the time. -/
def changesTime (p : ExecutionPatch) : Bool := (p.get? "next_run_at").isSome

/-- Whether a patch changes the row. -/
def differs (r : ExecutionRow) (p : ExecutionPatch) : Bool :=
  changesTime p || differsAt p "current_node_id" (.ofOption r.currentNodeId)
    || differsAt p "status" (.str r.status) || differsAt p "history" r.history

/-- The row with a patch applied. Values are converted first, then handed to
their columns; then the row must be writable, and at last the constraints are
checked. -/
def patch (r : ExecutionRow) (p : ExecutionPatch) (now : Calendar.Stamp) :
    Except Failure ExecutionRow := do
  let time ← columnOr p "next_run_at" (some r.nextRunAt) timeOf
  let history ← columnOr p "history" r.history (historyOf r.history)
  let node ← columnOr p "current_node_id" r.currentNodeId (textOf r.currentNodeId)
  let status ← columnOr p "status" (some r.status) (textOf (some r.status))
  -- Changes are dated, so one needs a time that can be written.
  if r.differs p then
    let _ ← writingTime now
  let status ← Column.given status
  match time with
  | none => .error .constraint
  | some time =>
    return { r with currentNodeId := node, status := status, nextRunAt := time, history := history }

end ExecutionRow

/-- The texts of an execution, which its columns must be able to hold. -/
def Execution.checkTexts (e : Execution) : Except Failure Unit := do
  let _ ← Column.whole e.funnelId
  let _ ← Column.whole e.leadId
  let _ ← Column.optional e.currentNodeId

def Execution.newRow (e : Execution) (now : Calendar.Stamp) : Except Failure ExecutionRow := do
  let row ← e.toRow 0
  let _ ← Column.whole e.id
  e.checkTexts
  return { row with createdAt := ← writingTime now }

namespace Store

variable {σ : Type}

/-- Whether a filter lets a value through; an empty filter lets all through. -/
def passes (filter : Option String) (value : String) : Bool :=
  match filter with
  | none => true
  | some s => s == "" || s == value

/-- The name in a filter of statuses must be that of a status. -/
def checkStatusFilter : Option String → Except Failure Unit
  | none => .ok ()
  | some name =>
    if name = "" || (Status.ofName? name).isSome then .ok ()
    else .error (.unknownStatus (.str name))

/-- The status that a value restricts a listing to: its name, or none if the value counts
as nothing. -/
def statusFilter : Json → Except Failure (Option String)
  | .str name => .ok (some name)
  | j => if j.isGiven then .error (.unknownStatus j) else .ok none

/-- The executions of a status, a funnel, a lead, in the order of their creation. -/
def listExecutions (status funnelId leadId : Option String) : Action σ (Reply (List Execution)) :=
  .guarded .listExecutions do
    Action.ofExcept (checkStatusFilter status)
    let _ ← Action.ofExcept (Column.optional funnelId)
    let _ ← Action.ofExcept (Column.optional leadId)
    let db ← Action.database
    let rows := db.executions.filter fun r =>
      passes status r.status && passes funnelId r.funnelId && passes leadId r.leadId
    Action.ofExcept ((inOrder (·.createdAt) rows).mapM ExecutionRow.load)

/-- The row of an execution, if there is one. -/
def executionRow? (id : String) : Action σ (Option ExecutionRow) := do
  let id ← Action.ofExcept (Column.whole id)
  let db ← Action.database
  return db.executions.find? fun r => r.id == id

def getExecution (id : String) : Action σ (Reply (Option Execution)) :=
  .guarded .getExecution do
    match ← executionRow? id with
    | some row => some <$> Action.ofExcept row.load
    | none => return none

/-- Keeps a new execution; its identifier must not be in use. -/
def createExecution (draft : Draft Execution) : Action σ (Reply Execution) :=
  .guarded .createExecution do
    let id ←
      match draft.id with
      | some id => pure id
      | none =>
        Action.issue .execution (·.executions) fun n => { n with executions := n.executions + 1 }
    let e := draft.withId id
    let now ← Action.databaseClock
    let row ← Action.ofExcept (e.newRow now)
    let db ← Action.database
    if db.executions.any fun r => r.id == e.id then Action.fail .constraint
    Action.modifyDatabase fun db => { db with executions := db.executions ++ [row] }
    Action.note [.executionCreated e.id e.funnelId e.leadId]
    return e

/-- Patches an execution, and tells whether it was there. -/
def updateExecution (id : String) (p : ExecutionPatch) : Action σ (Reply Bool) :=
  .guarded .updateExecution do
    if p.unknown ≠ [] then Action.fail (.lockedFields "execution" p.unknown)
    match ← executionRow? id with
    | none => return false
    | some row =>
      let now ← Action.databaseClock
      let row ← Action.ofExcept (row.patch p now)
      Action.modifyDatabase fun db => { db with executions := putRow (·.id) row db.executions }
      return true

end Store

end Nurture
