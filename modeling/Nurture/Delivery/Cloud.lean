import Nurture.Signature
import Nurture.Text.DigitForm
import Nurture.World

/-!
  The cloud provider backend

  WhatsApp messages are posted to the provider as JSON, as a provider template
  or as a plain text. A template that cannot be delivered is followed by the
  plain text. The provider is known by its replies, one for each post.

  The parts of an account and of a message may be any data. They are handed over as
  they are, except that a phone number must be made of characters and the values of
  a template must have members.
-/

namespace Nurture.Delivery.Cloud

/-- An account with the provider. -/
structure Account where
  phoneNumberId : Json
  accessToken : Json
  apiVersion : Json
  language : Json
  timeout : Json

/-- The account with other parts in the place of some of the usual ones. -/
def Account.override (usual : Account) (parts : Json) : Account where
  phoneNumberId := (parts.get? "phone_number_id").getD usual.phoneNumberId
  accessToken := (parts.get? "access_token").getD usual.accessToken
  apiVersion := (parts.get? "api_version").getD usual.apiVersion
  language := (parts.get? "language_code").getD usual.language
  timeout := (parts.get? "timeout_s").getD usual.timeout

/-- An account is usable if it has a number and a token. -/
def Account.check (a : Account) : Except Failure Account :=
  if a.phoneNumberId.isGiven && a.accessToken.isGiven then .ok a else .error .cloudUnconfigured

/-- Where messages are posted to. -/
def Account.url (a : Account) : String :=
  "https://graph.facebook.com/" ++ a.apiVersion.displayText ++ "/" ++ a.phoneNumberId.displayText
    ++ "/messages"

/-- What every post says about itself. -/
def Account.headers (a : Account) : List (String × String) :=
  [("Authorization", "Bearer " ++ a.accessToken.displayText),
   ("Content-Type", "application/json")]

/-- The members of data, which is at fault if it has none. -/
def members (j : Json) : Except Failure (List Json) :=
  match j.members? with
  | some items => .ok items
  | none => .error (.notIterable j.typeName)

/-- The part of a phone number if it is made of digits, else nothing. -/
def digitsOnly : Json → Except Failure String
  | .str s => .ok (if s.toList.all Text.isDigitForm then s else "")
  | j => .error (.absent j.typeName "isdigit")

/-- A phone number as the provider expects it: its digits. -/
def cleanPhone (phone : Json) : Except Failure String := do
  let parts ← members phone
  let digits ← parts.mapM digitsOnly
  return String.join digits

/-- What the provider answers to a post. -/
inductive Reply where
  /-- Accepted, with data. -/
  | accepted (body : Json)
  /-- Accepted, with an answer that is not JSON. -/
  | unreadable (reason : String)
  /-- Not accepted: the connection or the status says so. -/
  | refused (reason : String)
  /-- The machinery broke. -/
  | broken (reason : String)

/-- A reply as data: a reason why it is none, or the data of an accepted post. -/
def Reply.ofJson (j : Json) : Reply :=
  let reason? (key : String) : Option String :=
    ((j.get? key).filter Json.isGiven).map Json.displayText
  match reason? "connection_error", reason? "http_error", reason? "runtime_error" with
  | some reason, _, _ | none, some reason, _ => .refused reason
  | none, none, some reason => .broken reason
  | none, none, none => .accepted ((j.get? "json").getD (.obj []))

/-- Whether the provider took the message. -/
def Reply.isAccepted : Reply → Bool
  | accepted _ | unreadable _ => true
  | refused _ | broken _ => false

/-- What a reply means for the sender. -/
def Reply.result : Reply → Except Failure Json
  | accepted body => .ok body
  | unreadable reason => .error (.notJson reason)
  | refused reason => .error (.undelivered ("WhatsApp Cloud API request failed: " ++ reason))
  | broken reason => .error (.broken reason)

/-- The payload of a plain text. -/
def textPayload (recipient text : Json) : Except Failure Json := do
  let phone ← cleanPhone recipient
  return .obj [("messaging_product", .str "whatsapp"), ("recipient_type", .str "individual"),
    ("to", .str phone), ("type", .str "text"),
    ("text", .obj [("preview_url", .bool true), ("body", text)])]

/-- The values of a template as its components; no values need none. -/
def components (values : Json) : Except Failure Json.Fields := do
  if !values.isGiven then return []
  let parameter (v : Json) : Json := .obj [("type", .str "text"), ("text", v)]
  let items ← members values
  return [("components",
    .arr [.obj [("type", .str "body"), ("parameters", .arr (items.map parameter))]])]

/-- The payload of a provider template. -/
def templatePayload (a : Account) (recipient template values : Json) : Except Failure Json := do
  let components ← components values
  let phone ← cleanPhone recipient
  return .obj [("messaging_product", .str "whatsapp"), ("to", .str phone),
    ("type", .str "template"),
    ("template", .obj ([("name", template), ("language", .obj [("code", a.language)])]
      ++ components))]

/-- The course of a delivery: what was posted, what the provider has yet to
reply, what was written down. -/
structure Course where
  posts : List Json
  replies : List Reply
  events : List Journal.Event

/-- A course in which nothing has been posted. -/
def Course.start (replies : List Reply) : Course := ⟨[], replies, []⟩

/-- Posts a payload. A provider that has no more to say accepts. -/
def post (payload : Json) (c : Course) : Except Failure Json × Course :=
  match c.replies with
  | [] => (.ok (.obj []), { c with posts := c.posts ++ [payload] })
  | r :: rest => (r.result, { c with posts := c.posts ++ [payload], replies := rest })

def postMade (payload : Except Failure Json) (c : Course) : Except Failure Json × Course :=
  match payload with
  | .ok payload => post payload c
  | .error e => (.error e, c)

def sendText (recipient text : Json) (c : Course) : Except Failure Json × Course :=
  postMade (textPayload recipient text) c

def sendTemplate (a : Account) (recipient template values : Json) (c : Course) :
    Except Failure Json × Course :=
  postMade (templatePayload a recipient template values) c

/-- Posts the plain text at the end of a delivery. -/
def fallBack (recipient text : Json) (c : Course) : Except Failure Unit × Course :=
  match sendText recipient text c with
  | (.ok _, c) =>
    (.ok (), { c with events := c.events ++ [.textMessageSent recipient.displayText] })
  | (.error e, c) => (.error e, c)

/-- Whether a template is to be tried first: there must be one, and it must not be
the one that stands for the plain text. -/
def isTried (template : Json) : Bool := template.isGiven && !template.same (.str "FORCE_FALLBACK")

/-- Delivers a message: by its template if it has one, else, or when that is not
delivered, by its text. -/
def sendHybrid (a : Account) (recipient template values text : Json) (c : Course) :
    Except Failure Unit × Course :=
  if isTried template then
    let name := template.displayText
    let addressed := recipient.displayText
    match sendTemplate a recipient template values c with
    | (.ok _, c) => (.ok (), { c with events := c.events ++ [.templateMessageSent name addressed] })
    | (.error (.undelivered reason), c) =>
      let noted : Journal.Event := .templateMessageFailed name addressed (.undelivered reason)
      fallBack recipient text { c with events := c.events ++ [noted] }
    | (.error e, c) => (.error e, c)
  else fallBack recipient text c

/-! ## Calls by name -/

def senderName : String := "CloudApiWhatsAppSender"

/-- What the calls of the sender take. -/
def signatures : List (String × List String) :=
  [("send_text", ["to", "text"]), ("send_template", ["to", "template_name", "variables"]),
   ("send_hybrid", ["to", "template_name", "variables", "fallback_text"]), ("_post", ["payload"])]

/-- What is wrong with a call: the sender has none of the name, or its arguments are at
fault. -/
def callFault? (method : String) (args : List Json) : Option Failure :=
  match signatures.find? fun s => s.1 == method with
  | none => some (.absent senderName method)
  | some (_, needed) => (Signature.mk (senderName ++ "." ++ method) needed []).fault? args.length []

/-- Makes a call of the sender. -/
def call (a : Account) (method : String) (args : List Json) (c : Course) :
    Except Failure Json × Course :=
  match callFault? method args, method, args with
  | some e, _, _ => (.error e, c)
  | none, "send_text", [recipient, text] => sendText recipient text c
  | none, "send_template", [recipient, template, values] =>
    sendTemplate a recipient template values c
  | none, "send_hybrid", [recipient, template, values, text] =>
    let (r, c) := sendHybrid a recipient template values text c
    (r.map fun _ => .null, c)
  | none, "_post", [payload] => post payload c
  | none, _, _ => (.ok .null, c)

end Nurture.Delivery.Cloud
