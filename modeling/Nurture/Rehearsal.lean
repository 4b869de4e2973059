import Nurture.Action

/-!
  Rehearsals

  A rehearsal runs the engine against a scripted outside: rules make deliveries
  fail, and faults come in the way of calls, a given number of times each. Rules,
  faults and spans by which the clock is advanced are read from data.
-/

namespace Nurture.Rehearsal

/-- The channels on which messages are sent. -/
inductive Channel where
  | email
  | whatsApp
  deriving DecidableEq, Repr

def channelOf : Message → Channel
  | .email .. => .email
  | .whatsApp .. => .whatsApp

def recipientOf : Message → String
  | .email recipient .. => recipient
  | .whatsApp recipient .. => recipient

/-- A rule that refuses messages of a channel, perhaps only to one recipient,
and perhaps only so many times. -/
structure Refusal where
  channel : Channel
  recipient : Option String
  reason : String
  times : Option Nat

/-- Whether the rule refuses the message. -/
def Refusal.applies (r : Refusal) (m : Message) : Bool :=
  r.channel == channelOf m && (r.recipient.all (· == recipientOf m)) && r.times != some 0

/-- A fault that comes in the way of a call so many times. -/
structure Fault where
  call : Call
  times : Nat
  interruption : Interruption

/-- What a rehearsal has in store. -/
structure Script where
  refusals : List Refusal
  faults : List Fault

/-- A script in which all goes well. -/
def Script.smooth : Script := ⟨[], []⟩

/-- The first rule that refuses the message, and the rules with that use counted. -/
def refuse (m : Message) : List Refusal → Option String × List Refusal
  | [] => (none, [])
  | r :: rest =>
    if r.applies m then (some r.reason, { r with times := r.times.map (· - 1) } :: rest)
    else
      let (reason, rest) := refuse m rest
      (reason, r :: rest)

/-- How the scripted outside takes a message. -/
def deliver (m : Message) (s : Script) : Receipt × Script :=
  let (reason, refusals) := refuse m s.refusals
  (⟨reason.map .undelivered, []⟩, { s with refusals := refusals })

/-- How the scripted outside comes in the way of a call. -/
def interrupt (c : Call) (s : Script) : Option Interruption × Script :=
  match s.faults.find? fun f => f.call == c && f.times != 0 with
  | none => (none, s)
  | some fault =>
    let spent (f : Fault) : Fault := if f.call == c then { f with times := f.times - 1 } else f
    (some fault.interruption, { s with faults := s.faults.map spent })

/-- Adds a fault, in the place of an earlier one of the same call. -/
def Script.addFault (s : Script) (f : Fault) : Script :=
  { s with faults := s.faults.filter (fun g => g.call != f.call) ++ [f] }

/-- The surroundings of a rehearsal; the database goes by the clock of the engine. -/
def surroundings (clock : Calendar.Stamp) (policy : Policy) : Surroundings Script :=
  ⟨clock, clock, policy, deliver, interrupt⟩

/-! ## Scripts as data -/

/-- The channel of a name. -/
def Channel.ofName? : String → Option Channel
  | "email" => some .email
  | "whatsapp" => some .whatsApp
  | _ => none

/-- How often a rule or a fault comes about, where a whole number says so. -/
def timesOf? : Option Json → Option Int
  | some (.int n) => some n
  | some (.bool b) => some (if b then 1 else 0)
  | _ => none

/-- A rule as data. A number of times below zero never runs out; a rule for a recipient
that is no text, or for no channel, refuses nothing. -/
def Refusal.ofJson? (j : Json) : Option Refusal := do
  let channel ← Channel.ofName? (((j.get? "channel").map Json.displayText).getD "")
  let recipient ←
    match (j.get? "to").getD .null with
    | .null => some none
    | .str s => some (some s)
    | _ => none
  return {
    channel := channel
    recipient := recipient
    reason := ((j.get? "message").map Json.displayText).getD "down"
    times := ((timesOf? (j.get? "times")).filter (0 ≤ ·)).map Int.toNat }

/-- The calls by the object that takes them and their name. -/
def calls : List ((String × String) × Call) :=
  [(("store", "list_funnels"), .listFunnels), (("store", "get_funnel"), .getFunnel),
   (("store", "save_funnel"), .saveFunnel), (("store", "delete_funnel"), .deleteFunnel),
   (("store", "list_executions"), .listExecutions), (("store", "get_execution"), .getExecution),
   (("store", "create_execution"), .createExecution),
   (("store", "update_execution"), .updateExecution),
   (("leads", "get_all_leads"), .allLeads), (("leads", "list_leads"), .listLeads),
   (("leads", "get_lead"), .getLead), (("leads", "get_lead_by_email"), .leadByEmail),
   (("leads", "subscribe"), .subscribe), (("leads", "update_lead"), .updateLead),
   (("leads", "update_stage"), .updateStage), (("leads", "add_tag"), .addTag),
   (("leads", "delete_lead"), .deleteLead), (("templates", "save_template"), .saveTemplate),
   (("templates", "get_template"), .getTemplate), (("templates", "list_templates"), .listTemplates)]

/-- A fault as data, if there is such a call: it breaks it, or answers in its place. -/
def Fault.ofJson? (j : Json) : Option Fault := do
  let text (key : String) : String := ((j.get? key).map Json.displayText).getD ""
  let (_, call) ← calls.find? fun c => c.1 == (text "object", text "method")
  let interruption : Interruption :=
    match j.get? "returns" with
    | some answer => .answers answer
    | none => .breaks (((j.get? "message").map Json.displayText).getD "db gone")
  return ⟨call, ((timesOf? (j.get? "times")).getD 1).toNat, interruption⟩

/-- The units of spans, in microseconds. -/
def units : List (String × Int) :=
  [("microseconds", 1), ("milliseconds", 1000), ("seconds", Calendar.second),
   ("minutes", Calendar.minute), ("hours", Calendar.hour), ("days", Calendar.day),
   ("weeks", 7 * Calendar.day)]

/-- A number of units as data. -/
def amountOf? : Json → Option Calendar.Amount
  | .int n => some (.whole n)
  | .bool b => some (.whole (if b then 1 else 0))
  | .real x => some (.real x)
  | _ => none

/-- The amount of a unit, if it is given, with the unit in microseconds. -/
def amountIn (fields : Json.Fields) (unit : String × Int) :
    Except Failure (List (Nat × Calendar.Amount)) :=
  match fields.get? unit.1 with
  | none => .ok []
  | some j =>
    match amountOf? j with
    | some a => .ok [(unit.2.toNat, a)]
    | none => .error (.notAmount unit.1 j.typeName)

/-- A span as data: amounts by unit. -/
def span (fields : Json.Fields) : Except Failure Int := do
  let amounts ← units.mapM (amountIn fields)
  (Calendar.Span.ofAmounts amounts.flatten).mapError .span

/-- A zone at a distance from UTC, in minutes, as data; it must be less than a day. -/
def fixedZone (minutes : Json) : Except Failure Calendar.Zone := do
  let distance ← span [("minutes", minutes)]
  if -Calendar.day < distance && distance < Calendar.day then return .fixed distance
  else .error (.notTime "" (.offset distance))

end Nurture.Rehearsal
