import Nurture.Json.Value

/-!
  Nodes

  A node of a funnel has an identifier, a place on the editor's canvas, and a
  task: to send an email or a WhatsApp message, to wait, or to branch on a
  condition. The task names the nodes that may come next; an empty reference
  counts as none.
-/

namespace Nurture

/-- A place on the editor's canvas. -/
structure Position where
  x : Binary64
  y : Binary64
  deriving DecidableEq, Repr

/-- The corner of the canvas. -/
def Position.origin : Position :=
  ⟨.finite false 0 Binary64.minExponent, .finite false 0 Binary64.minExponent⟩

/-- What an email node sends; `extra` holds fields that only the editor knows. -/
structure EmailData where
  customTitle : Option String
  subject : Option String
  content : Option String
  extra : Json.Fields
  deriving Repr

/-- What a WhatsApp node sends, and when. -/
structure WhatsAppData where
  customTitle : Option String
  templateId : Option String
  templateTitle : Option String
  content : Option String
  sendTime : Option String
  extra : Json.Fields
  deriving Repr

/-- How long a delay node waits; no hours mean the usual delay. -/
structure DelayData where
  customTitle : Option String
  hours : Nat
  extra : Json.Fields
  deriving Repr

/-- How a condition compares. -/
inductive Operator where
  | contains
  | notContains
  deriving DecidableEq, Repr

/-- What a condition node tests. -/
structure ConditionData where
  customTitle : Option String
  target : String
  operator : Operator
  value : String
  extra : Json.Fields
  deriving Repr

/-- What a node does, and where it leads. -/
inductive Task where
  | email (data : EmailData) (next : Option String)
  | whatsApp (data : WhatsAppData) (next : Option String)
  | delay (data : DelayData) (next : Option String)
  | condition (data : ConditionData) (ifTrue ifFalse : Option String)
  deriving Repr

/-- The kinds of nodes. -/
inductive NodeKind where
  | email
  | whatsApp
  | delay
  | condition
  deriving DecidableEq, Repr

def NodeKind.tag : NodeKind → String
  | email => "EMAIL"
  | whatsApp => "WHATSAPP"
  | delay => "DELAY"
  | condition => "CONDITION"

def Task.kind : Task → NodeKind
  | email .. => .email
  | whatsApp .. => .whatsApp
  | delay .. => .delay
  | condition .. => .condition

/-- A node's identifier and place, common to all kinds. -/
structure NodeFrame where
  id : String
  position : Position
  deriving DecidableEq, Repr

/-- A node of a funnel. -/
structure Node extends NodeFrame where
  task : Task
  deriving Repr

/-- A reference to a node, unless it is empty. -/
def reference (r : Option String) : Option String := r.filter (· ≠ "")

/-- The nodes that a task may lead to. -/
def Task.successors : Task → List String
  | email _ next | whatsApp _ next | delay _ next => (reference next).toList
  | condition _ ifTrue ifFalse => (reference ifTrue).toList ++ (reference ifFalse).toList

namespace Node

def kind (n : Node) : NodeKind := n.task.kind

def successors (n : Node) : List String := n.task.successors

end Node

theorem reference_eq_some_iff {r : Option String} {id : String} :
    reference r = some id ↔ r = some id ∧ id ≠ "" := by
  simp [reference, Option.filter_eq_some_iff]

end Nurture
