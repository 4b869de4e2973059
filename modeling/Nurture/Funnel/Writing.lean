import Nurture.Failure
import Nurture.Funnel.Graph
import Nurture.Funnel.Reading
import Nurture.Json.Dump

/-!
  Funnels as data

  Every declared field is written, and the undeclared ones of node data behind
  them, which are dumped. Data whose undeclared fields are nested too deeply cannot
  leave the library.
-/

namespace Nurture

def Position.toJson (p : Position) : Json := .obj [("x", .real p.x), ("y", .real p.y)]

def PlainData.toJson (d : PlainData) : Json :=
  .obj (("custom_title", .ofOption d.customTitle) :: Json.dumpedFields d.extra)

def EmailData.toJson (d : EmailData) : Json :=
  .obj ([("custom_title", .ofOption d.customTitle), ("subject", .ofOption d.subject),
    ("content", .ofOption d.content)] ++ Json.dumpedFields d.extra)

def WhatsAppData.toJson (d : WhatsAppData) : Json :=
  .obj ([("custom_title", .ofOption d.customTitle), ("wa_template_id", .ofOption d.templateId),
    ("wa_template_title", .ofOption d.templateTitle), ("content", .ofOption d.content),
    ("send_time", .ofOption d.sendTime)] ++ Json.dumpedFields d.extra)

def DelayData.toJson (d : DelayData) : Json :=
  .obj ([("custom_title", .ofOption d.customTitle), ("hours", .int d.hours)]
    ++ Json.dumpedFields d.extra)

def Operator.name : Operator → String
  | contains => "contains"
  | notContains => "not_contains"

def ConditionData.toJson (d : ConditionData) : Json :=
  .obj ([("custom_title", .ofOption d.customTitle), ("condition_target", .str d.target),
    ("condition_operator", .str d.operator.name), ("condition_value", .str d.value)]
    ++ Json.dumpedFields d.extra)

/-- The fields common to all nodes. -/
def NodeFrame.fields (n : NodeFrame) : Json.Fields :=
  [("id", .str n.id), ("position", n.position.toJson)]

def NodeFrame.toJson (n : NodeFrame) : Json := .obj n.fields

def Task.fields : Task → Json.Fields
  | email data next => [("data", data.toJson), ("next_node_id", .ofOption next)]
  | whatsApp data next => [("data", data.toJson), ("next_node_id", .ofOption next)]
  | delay data next => [("data", data.toJson), ("next_node_id", .ofOption next)]
  | condition data ifTrue ifFalse =>
    [("data", data.toJson), ("true_node_id", .ofOption ifTrue),
     ("false_node_id", .ofOption ifFalse)]

def Node.toJson (n : Node) : Json :=
  .obj (n.toNodeFrame.fields ++ ("type", .str n.kind.tag) :: n.task.fields)

/-- The undeclared fields of a task's data. -/
def Task.extra : Task → Json.Fields
  | email data _ => data.extra
  | whatsApp data _ => data.extra
  | delay data _ => data.extra
  | condition data _ _ => data.extra

/-- Whether the node's data can be dumped. -/
def Node.isDumpable (n : Node) : Bool := n.task.extra.areDumpable

/-- The node as data that leaves the library. -/
def Node.dump (n : Node) : Except Failure Json :=
  if n.isDumpable then .ok n.toJson else .error .tooDeep

def Funnel.toJson (f : Funnel) : Json :=
  .obj [("id", .str f.id), ("name", .str f.name), ("trigger", .str f.trigger),
    ("is_active", .bool f.isActive), ("nodes", .arr (f.nodes.map Node.toJson)),
    ("start_node_id", .ofOption f.start)]

/-- Whether the data of all nodes can be dumped. -/
def Funnel.isDumpable (f : Funnel) : Bool := f.nodes.all Node.isDumpable

/-- The funnel as data that leaves the library. -/
def Funnel.dump (f : Funnel) : Except Failure Json :=
  if f.isDumpable then .ok f.toJson else .error .tooDeep

end Nurture
