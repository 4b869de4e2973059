import Nurture.Signature
import Nurture.Validation.Scalar

/-!
  Step results

  What running one node comes to: the execution goes on at another node, it is
  parked until a time, or it stays where it is because the node failed. The
  `StepRecord` is the flat form in which results are exchanged as data.
-/

namespace Nurture

open Calendar Validation Validation.Checked

/-- What running one node comes to. -/
inductive StepResult where
  /-- Go on at the next node, if there is one; `sent` tells of a message. -/
  | advanced (next : Option String) (sent : Bool)
  /-- Go on at the node when the time has come. -/
  | suspended (node : String) (resumeAt : Stamp)
  /-- Nothing happened, and the node is to be tried again if `retryable`. -/
  | failed (error : String) (retryable : Bool)
  deriving DecidableEq, Repr

/-- The kinds of step results. -/
inductive Outcome where
  | advanced
  | suspended
  | failed
  deriving DecidableEq, Repr

def Outcome.name : Outcome → String
  | advanced => "advanced"
  | suspended => "suspended"
  | failed => "failed"

def Outcome.names : List (String × Outcome) :=
  [Outcome.advanced, .suspended, .failed].map fun o => (o.name, o)

/-- A step result as a record of optional fields. -/
structure StepRecord where
  outcome : Outcome
  nextNodeId : Option String
  resumeNodeId : Option String
  resumeAt : Option Stamp
  sent : Bool
  error : Option String
  retryable : Bool
  deriving DecidableEq, Repr

namespace StepRecord

def checkFields (fs : Json.Fields) : Checked StepRecord :=
  StepRecord.mk
    <$> required fs "outcome" (choice Outcome.names)
    <*> optional fs "next_node_id" text
    <*> optional fs "resume_node_id" text
    <*> optional fs "resume_at" time
    <*> defaulted fs "sent" false boolean
    <*> optional fs "error" text
    <*> defaulted fs "retryable" true boolean

def check : Json → Checked StepRecord := record "StepResult" checkFields

def toJson (r : StepRecord) : Json :=
  .obj [("outcome", .str r.outcome.name), ("next_node_id", .ofOption r.nextNodeId),
    ("resume_node_id", .ofOption r.resumeNodeId),
    ("resume_at", .ofOption (r.resumeAt.map (·.jsonText))), ("sent", .bool r.sent),
    ("error", .ofOption r.error), ("retryable", .bool r.retryable)]

/-- What the call takes that makes a step result of an outcome. -/
def maker : Outcome → Signature
  | .advanced => ⟨"StepResult.advanced", ["next_node_id"], ["sent"]⟩
  | .suspended => ⟨"StepResult.suspended", ["resume_node_id", "resume_at"], []⟩
  | .failed => ⟨"StepResult.failed", ["error"], ["retryable"]⟩

end StepRecord

def StepResult.toRecord : StepResult → StepRecord
  | advanced next sent => ⟨.advanced, next, none, none, sent, none, true⟩
  | suspended node resumeAt =>
    ⟨.suspended, none, some node, some resumeAt, false, none, true⟩
  | failed error retryable => ⟨.failed, none, none, none, false, some error, retryable⟩

def StepResult.outcome : StepResult → Outcome
  | advanced .. => .advanced
  | suspended .. => .suspended
  | failed .. => .failed

@[simp] theorem StepResult.outcome_toRecord (r : StepResult) : r.toRecord.outcome = r.outcome := by
  cases r <;> rfl

end Nurture
