import Nurture.Funnel.Graph
import Nurture.Funnel.SendTime
import Nurture.Record
import Nurture.Validation.Scalar

/-!
  Funnels from data

  The checks that turn data from outside, or from the store, into nodes and
  funnels. Fields of node data that are not declared are kept; elsewhere they
  are dropped.
-/

namespace Nurture

open Validation Validation.Checked

def Position.check : Json → Checked Position :=
  record "Position" fun fs =>
    Position.mk
      <$> defaulted fs "x" Position.origin.x number
      <*> defaulted fs "y" Position.origin.y number

/-- The fields whose names are not declared. -/
def undeclared (declared : List String) (fs : Json.Fields) : Json.Fields :=
  fs.filter fun f => !declared.contains f.1

/-- Node data of no particular kind: a title and whatever else is given. -/
structure PlainData where
  customTitle : Option String
  extra : Json.Fields
  deriving Repr

def PlainData.check : Json → Checked PlainData :=
  record "NodeData" fun fs =>
    (PlainData.mk · (undeclared ["custom_title"] fs)) <$> optional fs "custom_title" text

def EmailData.declared : List String := ["custom_title", "subject", "content"]

def EmailData.check : Json → Checked EmailData :=
  record "EmailData" fun fs =>
    (EmailData.mk · · · (undeclared EmailData.declared fs))
      <$> optional fs "custom_title" text
      <*> optional fs "subject" text
      <*> optional fs "content" text

/-- A send time; an empty one is none. -/
def checkSendTime : Json → Checked (Option String)
  | .null => good none
  | .str s =>
    if s = "" then good none
    else if SendTime.accepts s then good (some s)
    else complain (.refused ("send_time must be HH:MM, got: " ++ s)) (.str s)
  | j => complain .notText j

def WhatsAppData.declared : List String :=
  ["custom_title", "wa_template_id", "wa_template_title", "content", "send_time"]

def WhatsAppData.check : Json → Checked WhatsAppData :=
  record "WhatsAppData" fun fs =>
    (WhatsAppData.mk · · · · · (undeclared WhatsAppData.declared fs))
      <$> optional fs "custom_title" text
      <*> optional fs "wa_template_id" text
      <*> optional fs "wa_template_title" text
      <*> optional fs "content" text
      <*> defaulted fs "send_time" none checkSendTime

def DelayData.declared : List String := ["custom_title", "hours"]

def DelayData.check : Json → Checked DelayData :=
  record "DelayData" fun fs =>
    (fun title (hours : Int) => DelayData.mk title hours.toNat (undeclared DelayData.declared fs))
      <$> optional fs "custom_title" text
      <*> defaulted fs "hours" 0 natural

def Operator.names : List (String × Operator) :=
  [("contains", .contains), ("not_contains", .notContains)]

def ConditionData.declared : List String :=
  ["custom_title", "condition_target", "condition_operator", "condition_value"]

/-- A field in which the editor leaves nothing or an empty text when it is not
filled in. -/
def filledIn {α : Type} (fs : Json.Fields) (key : String) (value : α) (check : Json → Checked α) :
    Checked α :=
  match fs.get? key with
  | some .null | some (.str "") => good value
  | _ => defaulted fs key value check

def ConditionData.check : Json → Checked ConditionData :=
  record "ConditionData" fun fs =>
    (ConditionData.mk · · · · (undeclared ConditionData.declared fs))
      <$> optional fs "custom_title" text
      <*> filledIn fs "condition_target" "tags" text
      <*> filledIn fs "condition_operator" .contains (literal Operator.names)
      <*> filledIn fs "condition_value" "" text

/-- Data of which no field is given. -/
def EmailData.blank : EmailData := ⟨none, none, none, []⟩

def WhatsAppData.blank : WhatsAppData := ⟨none, none, none, none, none, []⟩

def DelayData.blank : DelayData := ⟨none, 0, []⟩

def ConditionData.blank : ConditionData := ⟨none, "tags", .contains, "", []⟩

/-- The fields common to all nodes. -/
def NodeFrame.checkFields (fs : Json.Fields) : Checked NodeFrame :=
  NodeFrame.mk
    <$> required fs "id" (textOf 1)
    <*> defaulted fs "position" .origin Position.check

/-- A node of no particular kind. -/
def NodeFrame.check : Json → Checked NodeFrame := record "BaseNode" NodeFrame.checkFields

namespace Node

/-- The tag, if given, is that of the kind. -/
def checkTag (kind : NodeKind) (fs : Json.Fields) : Checked Unit :=
  defaulted fs "type" () (literal [(kind.tag, ())])

/-- A reference to the next node. -/
def checkReference (fs : Json.Fields) (key : String) : Checked (Option String) :=
  optional fs key text

/-- A node of the kind, from its fields. -/
def checkFields (kind : NodeKind) (fs : Json.Fields) : Checked Node :=
  (fun frame (_ : Unit) task => Node.mk frame task)
    <$> NodeFrame.checkFields fs
    <*> checkTag kind fs
    <*> match kind with
      | .email =>
        Task.email
          <$> defaulted fs "data" .blank EmailData.check
          <*> checkReference fs "next_node_id"
      | .whatsApp =>
        Task.whatsApp
          <$> defaulted fs "data" .blank WhatsAppData.check
          <*> checkReference fs "next_node_id"
      | .delay =>
        Task.delay
          <$> defaulted fs "data" .blank DelayData.check
          <*> checkReference fs "next_node_id"
      | .condition =>
        Task.condition
          <$> defaulted fs "data" .blank ConditionData.check
          <*> checkReference fs "true_node_id"
          <*> checkReference fs "false_node_id"

/-- The names of the records of the kinds. -/
def recordName : NodeKind → String
  | .email => "EmailNode"
  | .whatsApp => "WhatsAppNode"
  | .delay => "DelayNode"
  | .condition => "ConditionNode"

/-- A node of a known kind. -/
def checkKind (kind : NodeKind) : Json → Checked Node := record (recordName kind) (checkFields kind)

/-- The kinds by tag. -/
def kinds : List (String × NodeKind) :=
  [NodeKind.email, .whatsApp, .delay, .condition].map fun k => (k.tag, k)

/-- A node of the kind that its tag names. -/
def check : Json → Checked Node
  | .obj fs =>
    match Json.Fields.get? fs "type" with
    | none => complain .noTag (.obj fs)
    | some tag =>
      match chosen? kinds tag with
      | some kind => (checkFields kind fs).within (.field kind.tag)
      | none => complain (.unknownTag tag.displayText) (.obj fs)
  | j => complain .notFields j

end Node

namespace Funnel

/-- A funnel from its fields; it may come without identifier. -/
def checkFields (fs : Json.Fields) : Checked (Draft Funnel) :=
  ((fun id name trigger isActive nodes start =>
      Draft.mk id fun id => Funnel.mk id name trigger isActive nodes start)
    <$> Draft.checkId fs
    <*> required fs "name" (textOf 1)
    <*> required fs "trigger" (textOf 1)
    <*> defaulted fs "is_active" true boolean
    <*> defaulted fs "nodes" [] (listOf Node.check)
    <*> optional fs "start_node_id" text).andThen fun draft =>
      match (draft.withId "").graphFault? with
      | some fault => complain (.refused fault.message) (.obj fs)
      | none => good draft

def check : Json → Checked (Draft Funnel) := record "Funnel" checkFields

end Funnel

end Nurture
