import Nurture.Record
import Nurture.Text.LowerCase

/-!
  Leads

  A lead is a contact that funnels run against. Leads are told apart by their
  email address in normal form: without blanks around it, in lower case, not
  empty.
-/

namespace Nurture

open Validation Validation.Checked

/-- A contact. -/
structure Lead where
  id : String
  email : String
  name : String
  phone : String
  status : String
  tags : List String
  stage : String
  source : Option String
  createdAt : Option Calendar.Stamp
  deriving DecidableEq, Repr

namespace Lead

/-- The normal form of an email address. -/
def normalEmail (email : String) : String := Text.lower (Text.strip email)

/-- The normal form of an email address, which must not be empty. -/
def checkEmail (j : Json) : Checked String :=
  (textOf 1 j).andThen fun s =>
    if normalEmail s = "" then complain (.refused "email must not be empty") j
    else good (normalEmail s)

/-- The status of a lead that takes part in broadcasts, and of every new one. -/
def active : String := "active"

/-- The stage of a new lead. -/
def firstStage : String := "new"

/-- A lead from its fields; it may come without identifier. -/
def checkFields (fs : Json.Fields) : Checked (Draft Lead) :=
  (fun id email name phone status tags stage source createdAt =>
      Draft.mk id fun id => Lead.mk id email name phone status tags stage source createdAt)
    <$> Draft.checkId fs
    <*> required fs "email" checkEmail
    <*> defaulted fs "name" "" text
    <*> defaulted fs "phone" "" text
    <*> defaulted fs "status" active text
    <*> defaulted fs "tags" [] (listOf text)
    <*> defaulted fs "pipeline_stage" firstStage text
    <*> optional fs "source" text
    <*> optional fs "created_at" time

def check : Json → Checked (Draft Lead) := record "Lead" checkFields

def toJson (l : Lead) : Json :=
  .obj [("id", .str l.id), ("email", .str l.email), ("name", .str l.name), ("phone", .str l.phone),
    ("status", .str l.status), ("tags", .ofTexts l.tags), ("pipeline_stage", .str l.stage),
    ("source", .ofOption l.source), ("created_at", .ofOption (l.createdAt.map (·.jsonText)))]

end Lead

/-- What a subscription says about a lead, whose email is in normal form. -/
structure Subscription where
  email : String
  source : Option String
  name : String
  phone : String
  deriving DecidableEq, Repr

/-- A subscription as it comes from outside. -/
structure SubscriptionForm where
  email : Json
  source : Json := .null
  name : Json := .null
  phone : Json := .null

/-- A value in whose place an empty text is taken when it is not given. -/
def orEmptyText (j : Json) : Json := if j.isGiven then j else .str ""

/-- The subscription of a form. -/
def SubscriptionForm.check (f : SubscriptionForm) : Checked Subscription :=
  (fun email name phone source => Subscription.mk email source name phone)
    <$> (Lead.checkEmail f.email).within (.field "email")
    <*> (text (orEmptyText f.name)).within (.field "name")
    <*> (text (orEmptyText f.phone)).within (.field "phone")
    <*> (orNull text f.source).within (.field "source")

end Nurture
