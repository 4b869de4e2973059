import Nurture.World

/-!
  The console backends

  For development, messages are written into the journal instead of being
  delivered. Of a long text only the beginning is shown. The parts of a message may
  be any data; of an email's body the length is shown, and data without a length is
  refused, as is a WhatsApp text without a beginning.
-/

namespace Nurture.Delivery.Console

/-- How many characters of a text are shown. -/
def shownLength : Nat := 80

/-- How many characters or members data has. -/
def size (j : Json) : Except Failure Nat :=
  match j.members? with
  | some items => .ok items.length
  | none => .error (.noLength j.typeName)

/-- The beginning of data. -/
def beginning : Json → Except Failure Json
  | .str s => .ok (.str (String.ofList (s.toList.take shownLength)))
  | .arr items => .ok (.arr (items.take shownLength))
  | j => .error (.noSlice j.typeName)

/-- The event that shows an email. -/
def shownEmail (recipient subject body : Json) : Except Failure Journal.Event :=
  (size body).map fun n => .emailShown recipient.displayText subject n

/-- The event that shows a WhatsApp message. -/
def shownWhatsApp (recipient template text : Json) : Except Failure Journal.Event :=
  (beginning text).map fun t => .whatsAppShown recipient.displayText template.displayText t

/-- The event that shows a message. -/
def shown : Message → Journal.Event
  | .email recipient subject body => .emailShown recipient (.str subject) body.length
  | .whatsApp recipient template _ text =>
    .whatsAppShown recipient template (.str (String.ofList (text.toList.take shownLength)))

end Nurture.Delivery.Console
