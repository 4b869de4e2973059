import Nurture.Delivery.AddressList
import Nurture.Delivery.Header
import Nurture.World

/-!
  The mail relay backend

  An email is handed to a relay in one session: connect, secure the connection
  if so configured, log in if there are credentials, hand over the mail, quit. A
  session that was opened is quit, however it went. Faults of the transport make
  the email undelivered; other faults are passed on, also those of a mail that cannot
  be written or read.

  The parts of a relay and of an email may be any data.
-/

namespace Nurture.Delivery.Smtp

/-- A relay and how to use it. -/
structure Relay where
  host : Json
  port : Json
  username : Json
  password : Json
  useTls : Json
  fromAddress : Json

/-- The relay with other parts in the place of some of the usual ones. -/
def Relay.override (usual : Relay) (parts : Json) : Relay where
  host := (parts.get? "host").getD usual.host
  port := (parts.get? "port").getD usual.port
  username := (parts.get? "username").getD usual.username
  password := (parts.get? "password").getD usual.password
  useTls := (parts.get? "use_tls").getD usual.useTls
  fromAddress := (parts.get? "from_address").getD usual.fromAddress

/-- The seconds that a relay may take to answer. -/
def timeout : Nat := 30

/-- An email as it is given. -/
structure Letter where
  recipient : Json
  subject : Json
  body : Json

/-- An email in HTML, as it is handed over: whom the relay is told to be sender and
recipient, and what those who receive it read in its headers and its body. -/
structure Mail where
  sender : Json
  recipient : Json
  senderHeader : String
  recipientHeader : String
  subject : String
  body : String

/-- What is said to the relay. -/
inductive Exchange where
  | connect (host port : Json) (timeout : Nat)
  | startTls
  | login (username password : Json)
  | sendMail (mail : Mail)
  | quit

def Exchange.name : Exchange → String
  | connect .. => "connect"
  | startTls => "starttls"
  | login .. => "login"
  | sendMail _ => "sendmail"
  | quit => "quit"

/-- What a mail is made of, as data: its kind, its headers, and its parts. -/
def Mail.contents (m : Mail) : List Json :=
  [.str "multipart/alternative", .str m.senderHeader, .str m.recipientHeader, .str m.subject,
   .arr [.obj [("type", .str "text/html"), ("charset", .str "utf-8"), ("body", .str m.body)]]]

def Exchange.toJson (x : Exchange) : Json :=
  .arr (.str x.name ::
    match x with
    | connect host port timeout => [host, port, .int timeout]
    | login username password => [username, password]
    | sendMail mail => mail.sender :: .arr [mail.recipient] :: mail.contents
    | startTls | quit => [])

/-- How the relay answers with a fault. -/
inductive Fault where
  /-- The transport failed. -/
  | transport (reason : String)
  /-- Something else failed. -/
  | other (reason : String)
  deriving DecidableEq, Repr

/-- What is to be said to the relay before the mail. -/
def preamble (relay : Relay) : List Exchange :=
  (if relay.useTls.isGiven then [.startTls] else []) ++
    if relay.username.isGiven && relay.password.isGiven then
      [.login relay.username relay.password]
    else []

/-- Says one thing after the other until the relay answers with a fault. -/
def converse (relay : Exchange → Option Fault) : List Exchange → List Exchange × Option Fault
  | [] => ([], none)
  | x :: rest =>
    match relay x with
    | some fault => ([x], some fault)
    | none =>
      let (said, fault) := converse relay rest
      (x :: said, fault)

/-- What comes of a fault. -/
def Fault.failure (recipient : Json) : Fault → Failure
  | transport reason =>
    .undelivered ("SMTP delivery to " ++ recipient.displayText ++ " failed: " ++ reason)
  | other reason => .refused reason

/-- What keeps a body from being made a part of a mail. -/
def bodyFault? : Json → Option Failure
  | .str s => (Text.encodingFault? s).map .notEncodable
  | j => if j.isGiven then some (.absent j.typeName "encode") else none

/-- The body of a mail when it is written. -/
def bodyText : Json → Except Failure String
  | .str s => .ok s
  | .null => .ok ""
  | j => .error (.notBody j.typeName)

/-- The mail of a letter: everything is written first, and then read. -/
def compose (relay : Relay) (letter : Letter) : Except Failure Mail := do
  let body ← bodyText letter.body
  let sender ← Header.transfer "From" relay.fromAddress
  let recipient ← Header.transfer "To" letter.recipient
  let subject ← Header.transfer "Subject" letter.subject
  let sender ← shownAddresses sender
  let recipient ← shownAddresses recipient
  return {
    sender := relay.fromAddress
    recipient := letter.recipient
    senderHeader := String.ofList sender
    recipientHeader := String.ofList recipient
    subject := String.ofList (Header.text subject)
    body := body }

/-- What was said in a session, and how the delivery ended. -/
structure Session where
  said : List Exchange
  failure : Option Failure

/-- What is said in a session that was opened, before the relay is left. -/
def discourse (relay : Relay) (answer : Exchange → Option Fault) (letter : Letter) : Session :=
  match converse answer (preamble relay) with
  | (said, some fault) => ⟨said, some (fault.failure letter.recipient)⟩
  | (said, none) =>
    match compose relay letter with
    | .error f => ⟨said, some f⟩
    | .ok mail =>
      let fault := answer (.sendMail mail)
      ⟨said ++ [.sendMail mail], fault.map (·.failure letter.recipient)⟩

/-- Hands an email to a relay that answers as `answer` says. -/
def send (relay : Relay) (answer : Exchange → Option Fault) (letter : Letter) : Session :=
  match bodyFault? letter.body with
  | some f => ⟨[], some f⟩
  | none =>
    let opening : Exchange := .connect relay.host relay.port timeout
    match answer opening with
    | some fault => ⟨[opening], some (fault.failure letter.recipient)⟩
    | none =>
      let s := discourse relay answer letter
      ⟨opening :: s.said ++ [.quit], s.failure⟩

/-- The events of a session. -/
def Session.events (s : Session) (recipient : Json) : List Journal.Event :=
  match s.failure with
  | none => [.emailSent recipient.displayText]
  | some _ => []

end Nurture.Delivery.Smtp
