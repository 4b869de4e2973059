import Nurture.Action
import Nurture.Store.Column

/-!
  The store of message templates

  A template is kept under its identifier. Saving it again replaces it in its
  place.
-/

namespace Nurture

/-- The texts of a template, which its columns must be able to hold. -/
def Template.checkTexts (t : Template) : Except Failure Unit := do
  let _ ← Column.whole t.title
  let _ ← Column.whole t.content
  let _ ← Column.whole t.kind

namespace Store

variable {σ : Type}

/-- The row of a template, if there is one. -/
def templateRow? (id : String) : Action σ (Option TemplateRow) := do
  let id ← Action.ofExcept (Column.whole id)
  let db ← Action.database
  return db.templates.find? fun r => r.template.id == id

/-- The row of a template as it is to be written: a new one, or one in the place of
the one there is. -/
def templateToWrite (held : Option TemplateRow) (t : Template) (now : Calendar.Stamp) :
    Except Failure TemplateRow := do
  t.checkTexts
  match held with
  | some row => return ⟨t, row.createdAt⟩
  | none => return ⟨t, ← writingTime now⟩

/-- Keeps a template, in the place of the one with its identifier if there is one. -/
def saveTemplate (draft : Draft Template) : Action σ (Reply Template) :=
  .guarded .saveTemplate do
    let id ←
      match draft.id with
      | some id => pure id
      | none =>
        Action.issue .template (·.templates) fun n => { n with templates := n.templates + 1 }
    let t := draft.withId id
    let held ← templateRow? t.id
    let now ← Action.databaseClock
    let row ← Action.ofExcept (templateToWrite held t now)
    Action.modifyDatabase fun db =>
      { db with templates := putRow (·.template.id) row db.templates }
    Action.note [.templateSaved t.id t.title]
    return t

def getTemplate (id : String) : Action σ (Reply (Option Template)) :=
  .guarded .getTemplate do
    let row ← templateRow? id
    return row.map (·.template)

/-- All templates, in the order of their creation. -/
def listTemplates : Action σ (Reply (List Template)) :=
  .guarded .listTemplates do
    let db ← Action.database
    return (inOrder (·.createdAt) db.templates).map (·.template)

end Store

end Nurture
