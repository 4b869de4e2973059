import Nurture.Validation.Scalar

/-!
  Pass reports

  The counts of one pass: the executions that were due, and how each of them
  left the pass.
-/

namespace Nurture

open Validation Validation.Checked

/-- How an execution leaves a pass. -/
inductive Departure where
  | completed
  | suspended
  | failed
  deriving DecidableEq, Repr

def Departure.name : Departure → String
  | completed => "completed"
  | suspended => "suspended"
  | failed => "failed"

/-- The counts of one pass. -/
structure PassReport where
  due : Int
  completed : Int
  suspended : Int
  failed : Int
  deriving DecidableEq, Repr

namespace PassReport

/-- The report on a pass that nothing was due in. -/
def empty : PassReport := ⟨0, 0, 0, 0⟩

/-- The report on executions that left the pass in the given ways. -/
def ofDepartures (ds : List Departure) : PassReport :=
  ⟨ds.length, ds.count .completed, ds.count .suspended, ds.count .failed⟩

def checkFields (fs : Json.Fields) : Checked PassReport :=
  PassReport.mk
    <$> defaulted fs "due" 0 integer
    <*> defaulted fs "completed" 0 integer
    <*> defaulted fs "suspended" 0 integer
    <*> defaulted fs "failed" 0 integer

def check : Json → Checked PassReport := record "PassReport" checkFields

def toJson (r : PassReport) : Json :=
  .obj [("due", .int r.due), ("completed", .int r.completed), ("suspended", .int r.suspended),
    ("failed", .int r.failed)]

def text (r : PassReport) : String :=
  "Processed " ++ toString r.due ++ " due executions (completed=" ++ toString r.completed
    ++ ", suspended=" ++ toString r.suspended ++ ", failed=" ++ toString r.failed ++ ")"

/-- Every departure is counted once. -/
theorem ofDepartures_sum (ds : List Departure) :
    (ofDepartures ds).due
      = (ofDepartures ds).completed + (ofDepartures ds).suspended + (ofDepartures ds).failed := by
  induction ds with
  | nil => rfl
  | cons d ds ih =>
    simp only [ofDepartures, List.length_cons, List.count_cons] at ih ⊢
    cases d <;> simp <;> omega

end PassReport

end Nurture
