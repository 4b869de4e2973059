import Nurture.Action
import Nurture.Delivery.Cloud
import Nurture.Delivery.Smtp
import Nurture.Text.LowerCase

/-!
  Settings

  The settings are read from environment variables once, and the first one that
  cannot be read is a failure. From them follow the rules in force and the
  backends through which messages are delivered.
-/

namespace Nurture

/-- Environment variables by name. -/
abbrev Environment := List (String × String)

/-- The names of the variables that are looked at. -/
def Environment.names : List String :=
  ["FUNNELS_DATABASE_URL", "FUNNELS_POLL_INTERVAL_S", "FUNNELS_TIMEZONE",
   "FUNNELS_DEFAULT_LEAD_NAME",
   "FUNNELS_MAX_NODES_PER_PASS", "FUNNELS_DEDUPE_ACTIVE_EXECUTIONS", "FUNNELS_EMAIL_BACKEND",
   "FUNNELS_WHATSAPP_BACKEND", "SMTP_HOST", "SMTP_PORT", "SMTP_USERNAME", "SMTP_PASSWORD",
   "SMTP_USE_TLS", "SMTP_FROM", "WA_API_VERSION", "WA_PHONE_NUMBER_ID", "WA_ACCESS_TOKEN",
   "WA_LANGUAGE_CODE", "WA_TIMEOUT_S", "FUNNELS_API_KEY", "API_KEY"]

def Environment.get? (env : Environment) (name : String) : Option String :=
  (env.find? fun v => v.1 == name).map (·.2)

structure Settings where
  databaseUrl : Option String
  pollInterval : Int
  timeZone : String
  defaultName : String
  maxNodes : Int
  dedupe : Bool
  emailBackend : String
  whatsAppBackend : String
  relay : Delivery.Smtp.Relay
  account : Delivery.Cloud.Account

namespace Settings

/-- The address of the database; the word for the usual one if none is given. -/
def databaseText (s : Settings) : String := s.databaseUrl.getD "<default>"

/-- How far from its window an execution may be parked, in seconds. -/
def tolerance : Int := 60

/-- How many hours a delay lasts that does not say. -/
def defaultHours : Nat := 24

/-- How late a message may be sent in its window, in seconds: the tolerance, and
the time between two passes. -/
def grace (s : Settings) : Int := tolerance + s.pollInterval

/-- The words that switch a setting on. -/
def onWords : List String := ["1", "true", "yes", "on"]

/-- A setting that is on or off. -/
def switch (env : Environment) (name : String) (default : Bool) : Bool :=
  match env.get? name with
  | some value => onWords.contains (Text.lower (Text.strip value))
  | none => default

/-- A setting that is an integer. -/
def integer (env : Environment) (name : String) (default : Int) : Except Failure Int :=
  match env.get? name with
  | some value => (Numeral.readInteger value).mapError (.notInteger value)
  | none => .ok default

/-- A setting that is a number. -/
def number (env : Environment) (name : String) (default : Binary64) : Except Failure Binary64 :=
  match env.get? name with
  | some value =>
    match Numeral.readDecimal value with
    | some x => .ok x
    | none => .error (.notNumber value)
  | none => .ok default

/-- A setting that is a text. -/
def text (env : Environment) (name default : String) : String := (env.get? name).getD default

/-- Reads the settings. -/
def read (env : Environment) : Except Failure Settings := do
  let pollInterval ← integer env "FUNNELS_POLL_INTERVAL_S" 30
  let maxNodes ← integer env "FUNNELS_MAX_NODES_PER_PASS" 100
  let port ← integer env "SMTP_PORT" 587
  let timeout ← number env "WA_TIMEOUT_S" (.ofInt 15)
  return {
    databaseUrl := env.get? "FUNNELS_DATABASE_URL"
    pollInterval := pollInterval
    timeZone := text env "FUNNELS_TIMEZONE" "UTC"
    defaultName := text env "FUNNELS_DEFAULT_LEAD_NAME" "Leitor"
    maxNodes := maxNodes
    dedupe := switch env "FUNNELS_DEDUPE_ACTIVE_EXECUTIONS" false
    emailBackend := text env "FUNNELS_EMAIL_BACKEND" "log"
    whatsAppBackend := text env "FUNNELS_WHATSAPP_BACKEND" "log"
    relay :=
      { host := .str (text env "SMTP_HOST" "localhost")
        port := .int port
        username := .ofOption (env.get? "SMTP_USERNAME")
        password := .ofOption (env.get? "SMTP_PASSWORD")
        useTls := .bool (switch env "SMTP_USE_TLS" true)
        fromAddress := .str (text env "SMTP_FROM" "no-reply@localhost") }
    account :=
      { phoneNumberId := .str (text env "WA_PHONE_NUMBER_ID" "")
        accessToken := .str (text env "WA_ACCESS_TOKEN" "")
        apiVersion := .str (text env "WA_API_VERSION" "v21.0")
        language := .str (text env "WA_LANGUAGE_CODE" "pt_BR")
        timeout := .real timeout } }

def toJson (s : Settings) : Json :=
  .obj [("DATABASE_URL", .str s.databaseText), ("POLL_INTERVAL_S", .int s.pollInterval),
    ("SEND_WINDOW_TIMEZONE", .str s.timeZone), ("SEND_WINDOW_TOLERANCE_S", .int tolerance),
    ("SEND_WINDOW_GRACE_S", .int s.grace), ("DEFAULT_DELAY_HOURS", .int defaultHours),
    ("DEFAULT_LEAD_NAME", .str s.defaultName), ("MAX_NODES_PER_PASS", .int s.maxNodes),
    ("DEDUPE_ACTIVE_EXECUTIONS", .bool s.dedupe), ("EMAIL_BACKEND", .str s.emailBackend),
    ("WHATSAPP_BACKEND", .str s.whatsAppBackend), ("SMTP_HOST", s.relay.host),
    ("SMTP_PORT", s.relay.port), ("SMTP_USERNAME", s.relay.username),
    ("SMTP_PASSWORD", s.relay.password), ("SMTP_USE_TLS", s.relay.useTls),
    ("SMTP_FROM", s.relay.fromAddress), ("WA_PHONE_NUMBER_ID", s.account.phoneNumberId),
    ("WA_ACCESS_TOKEN", s.account.accessToken), ("WA_API_VERSION", s.account.apiVersion),
    ("WA_LANGUAGE_CODE", s.account.language), ("WA_TIMEOUT_S", s.account.timeout)]

/-- The settings as shown to an administrator. -/
def lines (s : Settings) : List String :=
  ["Funnel engine – configuration",
   "Database        : " ++ s.databaseText,
   "Poll interval   : " ++ toString s.pollInterval ++ "s",
   "Send window TZ  : " ++ s.timeZone,
   "Email backend   : " ++ s.emailBackend,
   "WhatsApp backend: " ++ s.whatsAppBackend,
   "Dedupe active   : " ++ (Json.bool s.dedupe).itemText]

end Settings

/-- What an engine may be given in the place of settings. -/
structure Overrides where
  timeZone : Option String := none
  dedupe : Option Bool := none
  maxNodes : Option Int := none

/-- The limit that a real number sets to visits, which are counted in whole numbers. -/
def visitLimit? (x : Binary64) : Option Int :=
  if !x.isFinite then none
  else if x.toInt?.isSome || x.floor < 0 then some x.floor
  else some (x.floor + 1)

/-- The rules in force. An empty zone and no nodes count as not given. -/
def Settings.policy (s : Settings) (o : Overrides) : Except Failure Policy := do
  let name := (o.timeZone.filter (· ≠ "")).getD s.timeZone
  let zone ← (Calendar.Zone.ofName name).mapError .zone
  return {
    zone := zone
    tolerance := .whole tolerance
    grace := .whole s.grace
    dedupe := o.dedupe.getD s.dedupe
    maxNodes := (o.maxNodes.filter (· ≠ 0)).getD s.maxNodes
    defaultName := s.defaultName
    defaultHours := defaultHours }

namespace Delivery

/-- How emails are delivered. -/
inductive EmailBackend where
  | console
  | relay (relay : Smtp.Relay)

/-- How WhatsApp messages are delivered. -/
inductive WhatsAppBackend where
  | console
  | cloud (account : Cloud.Account)

/-- The name of a backend: the given one, or else that of the settings. -/
def backendName (given : Option String) (setting : String) : String :=
  (given.filter (· ≠ "")).getD setting

/-- The email backend of a name. -/
def EmailBackend.choose (s : Settings) (given : Option String) : Except Failure EmailBackend :=
  let name := backendName given s.emailBackend
  if name = "log" then .ok .console
  else if name = "smtp" then .ok (.relay s.relay)
  else .error (.unknownBackend "email" name)

/-- The WhatsApp backend of a name. -/
def WhatsAppBackend.choose (s : Settings) (given : Option String) :
    Except Failure WhatsAppBackend :=
  let name := backendName given s.whatsAppBackend
  if name = "log" then .ok .console
  else if name = "cloud" then s.account.check.map .cloud
  else .error (.unknownBackend "WhatsApp" name)

end Delivery

/-- An engine as the settings make it. -/
structure EngineSetup where
  email : Delivery.EmailBackend
  whatsApp : Delivery.WhatsAppBackend
  policy : Policy

/-- Sets an engine up: the senders first, then the rules. -/
def Settings.setUp (s : Settings) : Except Failure EngineSetup := do
  let email ← Delivery.EmailBackend.choose s none
  let whatsApp ← Delivery.WhatsAppBackend.choose s none
  let policy ← s.policy {}
  return ⟨email, whatsApp, policy⟩

end Nurture
