import Nurture.Action
import Nurture.Store.Column

/-!
  The store of funnels

  A funnel is kept under its identifier. Saving it again replaces it in its
  place; what is read back is checked again.
-/

namespace Nurture

namespace FunnelRow

/-- The row as saving a funnel leaves it. -/
def replaced (r : FunnelRow) (f : Funnel) : FunnelRow :=
  let nodes :=
    match keptData (.arr r.nodes) (.arr (f.nodes.map Node.toJson)) with
    | .arr nodes => nodes
    | _ => r.nodes
  { f.toRow r.createdAt with nodes := nodes }

/-- Whether saving a funnel changes the row. -/
def differs (r : FunnelRow) (f : Funnel) : Bool :=
  r.name != f.name || r.trigger != f.trigger || r.isActive != f.isActive || r.start != f.start
    || !(Json.arr r.nodes).same (.arr (f.nodes.map Node.toJson))

end FunnelRow

/-- The texts of a funnel, which its columns must be able to hold. -/
def Funnel.checkTexts (f : Funnel) : Except Failure Unit := do
  let _ ← Column.whole f.name
  let _ ← Column.whole f.trigger
  let _ ← Column.optional f.start

namespace Store

variable {σ : Type}

/-- All funnels, in the order of their creation. -/
def listFunnels : Action σ (Reply (List Funnel)) :=
  .guarded .listFunnels do
    let db ← Action.database
    Action.ofExcept ((inOrder (·.createdAt) db.funnels).mapM FunnelRow.load)

/-- The row of a funnel, if there is one. -/
def funnelRow? (id : String) : Action σ (Option FunnelRow) := do
  let id ← Action.ofExcept (Column.whole id)
  let db ← Action.database
  return db.funnels.find? fun r => r.id == id

def getFunnel (id : String) : Action σ (Reply (Option Funnel)) :=
  .guarded .getFunnel do
    match ← funnelRow? id with
    | some row => some <$> Action.ofExcept row.load
    | none => return none

/-- The row of a funnel as it is to be written: a new one, or the one there is with
what has changed. Nothing is written if nothing has. -/
def funnelToWrite (held : Option FunnelRow) (f : Funnel) (now : Calendar.Stamp) :
    Except Failure (Option FunnelRow) := do
  if !f.isDumpable then .error .tooDeep
  match held with
  | none =>
    f.checkTexts
    return some (f.toRow (← writingTime now))
  | some row =>
    if row.differs f then
      f.checkTexts
      let _ ← writingTime now
      return some (row.replaced f)
    else return none

/-- Keeps a funnel, in the place of the one with its identifier if there is one. -/
def saveFunnel (draft : Draft Funnel) : Action σ (Reply Funnel) :=
  .guarded .saveFunnel do
    let id ←
      match draft.id with
      | some id => pure id
      | none => Action.issue .funnel (·.funnels) fun n => { n with funnels := n.funnels + 1 }
    let f := draft.withId id
    let held ← funnelRow? f.id
    let now ← Action.databaseClock
    match ← Action.ofExcept (funnelToWrite held f now) with
    | some row =>
      Action.modifyDatabase fun db => { db with funnels := putRow (·.id) row db.funnels }
    | none => pure ()
    Action.note [.funnelSaved held.isNone f.id f.name]
    return f

/-- Removes a funnel, and tells whether it was there. -/
def deleteFunnel (id : String) : Action σ (Reply Bool) :=
  .guarded .deleteFunnel do
    match ← funnelRow? id with
    | some _ =>
      Action.modifyDatabase fun db => { db with funnels := db.funnels.filter fun r => r.id != id }
      Action.note [.funnelDeleted id]
      return true
    | none => return false

end Store

end Nurture
