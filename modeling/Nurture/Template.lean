import Nurture.Record

/-!
  Message templates

  A stored text of WhatsApp messages, to which nodes refer by identifier.
-/

namespace Nurture

open Validation Validation.Checked

/-- A message template. -/
structure Template where
  id : String
  title : String
  content : String
  kind : String
  deriving DecidableEq, Repr

namespace Template

/-- A template from its fields; it may come without identifier. -/
def checkFields (fs : Json.Fields) : Checked (Draft Template) :=
  (fun id title content kind => Draft.mk id fun id => Template.mk id title content kind)
    <$> Draft.checkId fs
    <*> defaulted fs "title" "" text
    <*> required fs "content" text
    <*> defaulted fs "type" "text" text

def check : Json → Checked (Draft Template) := record "WhatsAppTemplate" checkFields

def toJson (t : Template) : Json :=
  .obj [("id", .str t.id), ("title", .str t.title), ("content", .str t.content),
    ("type", .str t.kind)]

end Template

end Nurture
