import Nurture.Calendar.Iso
import Nurture.Json.Value
import Nurture.Number.Numeral

/-!
  Times in data from outside

  A time may be given as a text, with a date alone or a date and a time of day,
  or as a number of seconds since 1970, which counts as milliseconds when it is
  above twenty thousand million. Written times may lie in the year 0, but none
  of that year can be held.
-/

namespace Nurture.Calendar.Lenient

/-- Why a value is no time. -/
inductive Fault where
  /-- The text writes no time. -/
  | text
  /-- The time cannot be held. -/
  | unheld
  /-- Times are not given by such values. -/
  | kind
  deriving DecidableEq, Repr

/-- The start of 1970 as a wall-clock reading. -/
def epoch : Int := (Date.toDays ⟨1970, 1, 1⟩ : Int) * day

/-- The greatest magnitude that counts as seconds. -/
def mostSeconds : Nat := 20000000000

/-- The start of year 0 as a wall-clock reading. -/
def startOfYearZero : Int := -366 * day

/-- A wall-clock reading of UTC that is written somehow, of the years 0 to 9999. -/
def written (wall : Int) : Option Stamp :=
  if startOfYearZero ≤ wall && wall < endOfTime then some (.ahead wall 0) else none

/-- The time that is so many whole seconds, or milliseconds, after the start of 1970. -/
def ofWhole (n : Int) : Option Stamp :=
  written (epoch + n * (if n.natAbs ≤ mostSeconds then second else second / 1000))

/-- The time that is so many seconds, or milliseconds, after the start of 1970, to
the nearest microsecond. -/
def ofReal (x : Binary64) : Option Stamp :=
  if x.isFinite then
    let seconds := if x.exceeds mostSeconds then x.scaledBy 1 1000 else x
    let micros := (seconds.aboveFloor.scaledBy 1000000 1).roundHalfUp
    written (epoch + seconds.floor * second + micros)
  else none

/-- Whether the date exists, the year 0 included. -/
def isWritten (d : Date) : Bool :=
  1 ≤ d.month && d.month ≤ 12 && 1 ≤ d.day && d.day ≤ Date.daysInMonth d.year d.month

def startOf (d : Date) : Int :=
  if d.year = 0 then startOfYearZero else d.toDays * day

/-- A date with hyphens, and the rest. -/
def date? (cs : List Char) : Option (Date × List Char) := do
  let (year, cs) ← Iso.take? 4 0 cs
  match cs with
  | '-' :: cs =>
    let (month, cs) ← Iso.take? 2 0 cs
    match cs with
    | '-' :: cs =>
      let (d, cs) ← Iso.take? 2 0 cs
      let date : Date := ⟨year, month, d⟩
      if isWritten date then some (date, cs) else none
    | _ => none
  | _ => none

/-- Hours and minutes, seconds and a fraction of them if given, and the rest;
digits of the fraction beyond the sixth are left out. -/
def timeOfDay? (cs : List Char) : Option (Int × List Char) := do
  let (h, cs) ← Iso.take? 2 0 cs
  match cs with
  | ':' :: cs =>
    let (m, cs) ← Iso.take? 2 0 cs
    if 23 < h || 59 < m then none
    else
      let base : Int := h * hour + m * minute
      match cs with
      | ':' :: cs =>
        let (s, cs) ← Iso.take? 2 0 cs
        if 59 < s then none
        else
          match cs with
          | c :: rest =>
            if c = '.' || c = ',' then
              let ds := rest.takeWhile Char.isDigit
              if ds.isEmpty then none
              else some (base + s * second + Iso.microsOf ds, rest.dropWhile Char.isDigit)
            else some (base + s * second, cs)
          | [] => some (base + s * second, [])
      | _ => some (base, cs)
  | _ => none

/-- The distance from UTC at the end of a text. -/
def offset? (cs : List Char) : Option (Option Int) :=
  match cs with
  | [] => some none
  | [c] => if c = 'Z' || c = 'z' then some (some 0) else none
  | sign :: cs =>
    if sign = '+' || sign = '-' || sign.toNat = 0x2212 then do
      let (h, cs) ← Iso.take? 2 0 cs
      let (m, cs) ← Iso.take? 2 0 (match cs with | ':' :: rest => rest | _ => cs)
      if cs.isEmpty && m < 60 && h < 24 then
        let span : Int := h * hour + m * minute
        some (some (if sign = '+' then span else -span))
      else none
    else none

/-- A date and a time of day. -/
def dateTime? (cs : List Char) : Option Stamp := do
  let (d, cs) ← date? cs
  match cs with
  | [] => some (.floating (startOf d))
  | separator :: cs =>
    if separator = 'T' || separator = 't' || separator = ' ' || separator = '_' then
      let (t, cs) ← timeOfDay? cs
      let offset ← offset? cs
      some (.ofReading (startOf d + t) offset)
    else none

/-- A number of seconds written in digits: a whole one that a word can hold, or,
behind such a one, a point and perhaps a fraction and an exponent. -/
def number? (cs : List Char) : Option Stamp := do
  let (negative, cs) := Numeral.splitSign cs
  let digits := cs.takeWhile Char.isDigit
  let n := Numeral.ofDigits (digits.map (·.toNat - 48))
  if digits.isEmpty || Word.bound 64 ≤ n then none
  else
    match cs.dropWhile Char.isDigit with
    | [] => ofWhole (Numeral.signed negative n)
    | '.' :: rest =>
      if rest.contains '_' then none
      else (Numeral.unsignedDecimal negative Numeral.asciiValue? cs).bind ofReal
    | _ => none

/-- The time, unless it lies in the year 0. -/
def held (t : Stamp) : Except Fault Stamp := if 0 ≤ t.wall then .ok t else .error .unheld

def read : Json → Except Fault Stamp
  | .str s =>
    match (dateTime? s.toList).orElse fun _ => number? s.toList with
    | some t => held t
    | none => .error .text
  | .int n =>
    match ofWhole n with
    | some t => held t
    | none => .error .unheld
  | .real x =>
    match ofReal x with
    | some t => held t
    | none => .error .unheld
  | _ => .error .kind

end Nurture.Calendar.Lenient
