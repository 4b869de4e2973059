import Nurture.Engine.Step
import Nurture.Store.Executions

/-!
  Walks

  An execution walks through its funnel node by node until it ends, is parked,
  or fails. A node that the funnel lacks ends the walk, and so does reaching the
  bound on the nodes visited in one pass. The walk itself changes nothing in the
  store; what it came to is recorded afterwards in one write, and a failure is
  not recorded at all.
-/

namespace Nurture

/-- The entry of an execution's history about a node. -/
def historyEntry (nodeId : String) (kind : Option NodeKind) (outcome : String)
    (at0 : Calendar.Stamp) (more : Json.Fields) : Json.Fields :=
  [("node_id", .str nodeId), ("node_type", .ofOption (kind.map (·.tag))), ("outcome", .str outcome),
   ("at", .str at0.isoText)] ++ more

theorem outcome_historyEntry (nodeId : String) (kind : Option NodeKind) (outcome : String)
    (at0 : Calendar.Stamp) (more : Json.Fields) :
    Json.Fields.get? (historyEntry nodeId kind outcome at0 more) "outcome" = some (.str outcome) :=
  rfl

/-- The entry about a node that was passed. -/
def advancedEntry (n : Node) (sent : Bool) (at0 : Calendar.Stamp) : Json.Fields :=
  historyEntry n.id n.kind Outcome.advanced.name at0 [("sent", .bool sent)]

/-- The entry about a node at which the execution was parked. -/
def suspendedEntry (n : Node) (resumeAt at0 : Calendar.Stamp) : Json.Fields :=
  historyEntry n.id n.kind Outcome.suspended.name at0 [("resume_at", .str resumeAt.isoText)]

/-- How a walk ends. -/
inductive Journey where
  /-- Nothing comes next. -/
  | ended
  /-- The funnel lacks the node. -/
  | unreachable (nodeId : String)
  /-- The bound is reached before the node. -/
  | looping (node : Node) (visited : Nat)
  /-- The execution goes on at a node when the time has come. -/
  | parked (node : Node) (resumeNode : String) (resumeAt : Calendar.Stamp)
  | failed (node : Node) (error : String)

/-- Walks from a node on, `remaining` nodes at most, `visited` having been
passed; the entries of the nodes passed are appended to the history. -/
def walk {σ : Type} (f : Funnel) (ctx : StepContext) :
    Nat → Nat → Option String → List Json.Fields → Action σ (Journey × List Json.Fields)
  | remaining, visited, nodeId, history =>
    match reference nodeId with
    | none => pure (.ended, history)
    | some id =>
      match f.node? id with
      | none => pure (.unreachable id, history)
      | some n =>
        -- A node that is missing is reported as such, even where the bound is reached.
        match remaining with
        | 0 => pure (.looping n visited, history)
        | remaining + 1 => do
          match ← Step.perform ctx n with
          | .failed error _ => return (.failed n error, history)
          | .suspended resumeNode resumeAt => return (.parked n resumeNode resumeAt, history)
          | .advanced next sent =>
            walk f ctx remaining (visited + 1) next (history ++ [advancedEntry n sent ctx.now])
termination_by remaining => remaining

def completeExecution {σ : Type} (id : String) (history : List Json.Fields) : Action σ Unit := do
  let _ ← Store.updateExecution id (.complete history)

/-- Records what a walk came to. -/
def settle {σ : Type} (f : Funnel) (ctx : StepContext) (journey : Journey)
    (history : List Json.Fields) : Action σ Departure := do
  let e := ctx.execution
  let tell (event : Journal.ExecutionEvent) : Action σ Unit :=
    Action.note [.execution e.id e.leadId event]
  match journey with
  -- What went well is told after the write, what went wrong before it.
  | .ended =>
    completeExecution e.id history
    tell (.completed f.name)
    return .completed
  | .unreachable nodeId =>
    tell (.nodeMissing nodeId f.id)
    completeExecution e.id (history ++ [historyEntry nodeId none "unreachable" ctx.now []])
    return .completed
  | .looping n visited =>
    tell (.looping visited f.id)
    completeExecution e.id (history ++ [historyEntry n.id n.kind "loop_detected" ctx.now []])
    return .completed
  | .parked n resumeNode resumeAt =>
    let history := history ++ [suspendedEntry n resumeAt ctx.now]
    let _ ← Store.updateExecution e.id (.park resumeNode resumeAt history)
    tell (.suspended resumeAt resumeNode)
    return .suspended
  | .failed n error =>
    tell (.nodeFailed n.id error)
    return .failed

/-- Drives one execution. One whose funnel or lead is gone is ended. -/
def processExecution {σ : Type} (e : Execution) (funnel : Option Funnel) (lead : Option Lead)
    (now : Calendar.Stamp) : Action σ Departure := do
  match funnel, lead with
  | some f, some lead =>
    let policy ← Action.policy
    let ctx : StepContext := ⟨e, lead, now⟩
    let (journey, history) ← walk f ctx policy.maxNodes.toNat 0 e.currentNodeId e.history
    settle f ctx journey history
  | _, _ =>
    Action.note [.execution e.id e.leadId (.orphaned e.funnelId)]
    completeExecution e.id
      (e.history ++ [historyEntry (e.currentNodeId.getD "") none "orphaned" now []])
    return .completed

end Nurture
