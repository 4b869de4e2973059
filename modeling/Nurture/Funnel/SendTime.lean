import Nurture.Number.Numeral
import Nurture.Text.Search

/-!
  Send times

  The local time of day at which a message may be sent, as a text `HH:MM`.
  `SendTime.accepts` is the test that node data passes before it is kept;
  `SendTime.read` takes a text apart and admits more texts than that.
-/

namespace Nurture.SendTime

/-- Why a text is no send time. -/
inductive Fault where
  | tooFewParts
  | tooManyParts
  | notInteger (part : String) (fault : Numeral.Fault)
  deriving DecidableEq, Repr

/-- Hours from 00 to 23: the first digit ASCII, the second of any script if it
follows a 0 or a 1. -/
def acceptsHours (a b : Char) : Bool :=
  (a = '0' || a = '1') && Text.isDecimalDigit b || a = '2' && '0' ≤ b && b ≤ '3'

/-- Minutes from 00 to 59: the first digit ASCII, the second of any script. -/
def acceptsMinutes (a b : Char) : Bool := '0' ≤ a && a ≤ '5' && Text.isDecimalDigit b

/-- Whether the text is a time of day `HH:MM`; a line end may follow. -/
def accepts (s : String) : Bool :=
  match s.toList with
  | a :: b :: ':' :: c :: d :: rest =>
    acceptsHours a b && acceptsMinutes c d && (rest = [] || rest = ['\n'])
  | _ => false

/-- The integer that a part of a send time writes. -/
def readPart (cs : List Char) : Except Fault Int :=
  let s := String.ofList cs
  match Numeral.readInteger s with
  | .ok n => .ok n
  | .error fault => .error (.notInteger s fault)

/-- Hours and minutes of a send time: two integers with a colon between them. -/
def read (s : String) : Except Fault (Int × Int) :=
  match Text.splitAt ':' s.toList with
  | [] | [_] => .error .tooFewParts
  | [h, m] => do
    let hours ← readPart h
    let minutes ← readPart m
    return (hours, minutes)
  | _ => .error .tooManyParts

end Nurture.SendTime
