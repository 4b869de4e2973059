import Nurture.Action
import Nurture.Store.Column

/-!
  The directory of leads

  There is one lead per normal email address. Subscribing makes a lead or
  refreshes the name and phone of the one there is. The directory never starts
  funnels.
-/

namespace Nurture

namespace LeadRow

/-- The columns that an update may change. -/
def updatable : List String := ["name", "phone", "status", "tags", "pipeline_stage", "source"]

/-- The keys that are no such columns, in order. -/
def unknownKeys (fields : Json.Fields) : List String :=
  ((fields.map (·.1)).filter fun key => !updatable.contains key).mergeSort fun a b => decide (a ≤ b)

/-- The new values for columns that data gives, which must be an object of them. -/
def patchOf (data : Json) : Except Failure Json.Fields :=
  match data, data.members? with
  | .obj fields, _ => .ok fields
  | j, none => .error (.notIterable j.typeName)
  | j, some members =>
    match unknownKeys (members.map fun m => (m.displayText, m)) with
    | [] => .error (.absent j.typeName "items")
    | keys => .error (.lockedFields "lead" keys.eraseDups)

/-- What a column of text holds after an update. -/
def textColumn (fields : Json.Fields) (key : String) (held : Option String) :
    Except Failure (Option String) :=
  match fields.get? key with
  | some j => Column.given? held j
  | none => .ok held

/-- The members of the value given for the tags, or the tags there are. -/
def newTags (r : LeadRow) (fields : Json.Fields) : Except Failure (List Json) :=
  match fields.get? "tags" with
  | none => .ok r.tags
  | some j =>
    match j.members? with
    | some items => .ok items
    | none => .error (.notIterable j.typeName)

/-- Whether an update changes a column of text. -/
def differsAt (fields : Json.Fields) (key : String) (held : Option String) : Bool :=
  (fields.get? key).any fun j => !(Json.ofOption held).same j

/-- The tags that the column holds after it was given new ones. -/
def keptTags (r : LeadRow) (tags : List Json) : List Json :=
  if (Json.arr r.tags).same (.arr tags) then r.tags else tags

/-- Whether an update that gives the tags changes the row. -/
def differs (r : LeadRow) (fields : Json.Fields) (tags : List Json) : Bool :=
  differsAt fields "name" (some r.name) || differsAt fields "phone" (some r.phone)
    || differsAt fields "status" (some r.status) || differsAt fields "pipeline_stage" (some r.stage)
    || differsAt fields "source" r.source || !(Json.arr r.tags).same (.arr tags)

/-- The row with new values; all or none of them are taken over. -/
def update (r : LeadRow) (fields : Json.Fields) (tags : List Json) (now : Calendar.Stamp) :
    Except Failure LeadRow := do
  let name ← textColumn fields "name" (some r.name)
  let phone ← textColumn fields "phone" (some r.phone)
  let status ← textColumn fields "status" (some r.status)
  let stage ← textColumn fields "pipeline_stage" (some r.stage)
  let source ← textColumn fields "source" r.source
  if r.differs fields tags then
    let _ ← writingTime now
  return { r with
    name := ← Column.given name
    phone := ← Column.given phone
    status := ← Column.given status
    tags := r.keptTags tags
    stage := ← Column.given stage
    source := source }

/-- The lead as an update leaves it, with the values as they were given. -/
def updatedLead (r : LeadRow) (fields : Json.Fields) (tags : List Json) : Except Failure Lead :=
  let value (key : String) (held : Json) : Json := (fields.get? key).getD held
  let data : Json.Fields :=
    [("email", .str r.email), ("name", orEmptyText (value "name" (.str r.name))),
     ("phone", orEmptyText (value "phone" (.str r.phone))),
     ("status", value "status" (.str r.status)),
     ("tags", .arr tags), ("pipeline_stage", value "pipeline_stage" (.str r.stage)),
     ("source", value "source" (.ofOption r.source))]
  (((Lead.checkFields data).toExcept "Lead").mapError .invalid).map fun draft =>
    { draft.withId r.id with createdAt := some (.floating r.createdAt) }

/-- The row as a subscription refreshes it. -/
def refreshed (r : LeadRow) (s : Subscription) (now : Calendar.Stamp) : Except Failure LeadRow := do
  let refreshed :=
    { r with
      name := if s.name = "" then r.name else s.name
      phone := if s.phone = "" then r.phone else s.phone }
  let _ ← Column.whole refreshed.name
  let _ ← Column.whole refreshed.phone
  if refreshed.name != r.name || refreshed.phone != r.phone then
    let _ ← writingTime now
  return refreshed

/-- The row of a new lead. -/
def ofSubscription (s : Subscription) (id : String) (now : Calendar.Stamp) :
    Except Failure LeadRow := do
  let _ ← Column.whole s.name
  let _ ← Column.whole s.phone
  let _ ← Column.optional s.source
  return { id := id, email := s.email, name := s.name, phone := s.phone, status := Lead.active,
           tags := [], stage := Lead.firstStage, source := s.source,
           createdAt := ← writingTime now }

end LeadRow

namespace Store

variable {σ : Type}

/-- The leads of a status, in the order of their creation. -/
def listLeads (status : Option String) : Action σ (Reply (List Lead)) :=
  .guarded .listLeads do
    let _ ← Action.ofExcept (Column.optional status)
    let db ← Action.database
    let rows := db.leads.filter fun r =>
      match status with
      | none => true
      | some s => s == "" || s == r.status
    Action.ofExcept ((inOrder (·.createdAt) rows).mapM LeadRow.load)

def allLeads : Action σ (Reply (List Lead)) := .relayed .allLeads (listLeads none)

/-- The row of a lead, if there is one. -/
def leadRow? (id : String) : Action σ (Option LeadRow) := do
  let id ← Action.ofExcept (Column.whole id)
  let db ← Action.database
  return db.leads.find? fun r => r.id == id

/-- The row of the lead with an email address in normal form, if there is one. -/
def leadRowByEmail? (email : String) : Action σ (Option LeadRow) := do
  let email ← Action.ofExcept (Column.whole email)
  let db ← Action.database
  return db.leads.find? fun r => r.email == email

/-- The lead of a row that may be missing. -/
def loadLead? : Option LeadRow → Action σ (Option Lead)
  | some row => some <$> Action.ofExcept row.load
  | none => pure none

/-- Puts the row of a lead in its place. -/
def putLead (row : LeadRow) : Action σ Unit :=
  Action.modifyDatabase fun db => { db with leads := putRow (·.id) row db.leads }

def getLead (id : String) : Action σ (Reply (Option Lead)) :=
  .guarded .getLead do
    let row ← leadRow? id
    loadLead? row

/-- The lead with the email address, in any spelling. -/
def leadByEmail (email : String) : Action σ (Reply (Option Lead)) :=
  .guarded .leadByEmail do
    let row ← leadRowByEmail? (Lead.normalEmail email)
    loadLead? row

/-- Makes a lead, or refreshes the one that owns the email address with the name
and phone that are given. -/
def subscribe (form : SubscriptionForm) : Action σ (Reply Lead) :=
  .guarded .subscribe do
    let s ← Action.ofExcept ((form.check.toExcept "Lead").mapError .invalid)
    let held ← leadRowByEmail? s.email
    let now ← Action.databaseClock
    match held with
    | none =>
      let id ← Action.issue .lead (·.leads) fun n => { n with leads := n.leads + 1 }
      -- The subscription is told of before the row is known to fit the columns.
      Action.note [.subscribed s.email s.source]
      let row ← Action.ofExcept (LeadRow.ofSubscription s id now)
      let db ← Action.database
      if db.leads.any fun r => r.id == row.id || r.email == row.email then
        Action.fail .constraint
      Action.modifyDatabase fun db => { db with leads := db.leads ++ [row] }
      Action.ofExcept row.load
    | some row =>
      Action.note [.resubscribed s.email]
      let row ← Action.ofExcept (row.refreshed s now)
      putLead row
      Action.ofExcept row.load

/-- Gives columns of a lead new values; a lead that is not there is no failure. -/
def updateLead (id : String) (fields : Json.Fields) : Action σ (Reply (Option Lead)) :=
  .guarded .updateLead do
    let unknown := LeadRow.unknownKeys fields
    if unknown ≠ [] then Action.fail (.lockedFields "lead" unknown)
    match ← leadRow? id with
    | none => return none
    | some row =>
      let now ← Action.databaseClock
      let tags ← Action.ofExcept (row.newTags fields)
      let row ← Action.ofExcept (row.update fields tags now)
      putLead row
      some <$> Action.ofExcept (row.updatedLead fields tags)

/-- Whether an update left a lead behind; data other than nothing counts as one. -/
def wasUpdated : Reply (Option Lead) → Bool
  | .own lead => lead.isSome
  | .foreign .null => false
  | .foreign _ => true

/-- Moves a lead to a stage, and tells whether the lead was there. -/
def updateStage (id : String) (stage : Json) : Action σ (Reply Bool) :=
  .guarded .updateStage do
    let lead ← updateLead id [("pipeline_stage", stage)]
    return wasUpdated lead

/-- Tags a lead, and tells whether the tag is new to it. A tag may be any data, but
only texts can be read back. -/
def addTag (id : String) (tag : Json) : Action σ (Reply Bool) :=
  .guarded .addTag do
    match ← leadRow? id with
    | none =>
      Action.note [.noLeadToTag id]
      return false
    | some row =>
      if row.tags.any tag.same then return false
      else
        let now ← Action.databaseClock
        let _ ← Action.ofExcept (writingTime now)
        putLead { row with tags := row.tags ++ [tag] }
        Action.note [.tagAdded tag id]
        return true

/-- Removes a lead, and tells whether it was there. -/
def deleteLead (id : String) : Action σ (Reply Bool) :=
  .guarded .deleteLead do
    match ← leadRow? id with
    | some _ =>
      Action.modifyDatabase fun db => { db with leads := db.leads.filter fun r => r.id != id }
      Action.note [.leadDeleted id]
      return true
    | none => return false

end Store

end Nurture
