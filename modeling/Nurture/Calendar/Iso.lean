import Nurture.Calendar.Stamp
import Nurture.Text.Utf

/-!
  Written times

  `isoText` writes a time as date, separator, time of day and distance from UTC,
  the microseconds only if there are some. `jsonText` is the form of times in
  JSON, where UTC is a `Z`.

  `Iso.read` reads the forms of ISO 8601 with calendar dates and with week dates.
  Any character may stand between date and time. The time of day is cut off at
  the mark of a distance from UTC, and one byte too many in front of the mark is
  passed over; texts are therefore read as their bytes.
-/

namespace Nurture.Calendar

/-- The decimal digits of `n`, filled up with zeros to the width. -/
def padded (width n : Nat) : String :=
  let ds := toString n
  String.ofList (List.replicate (width - ds.length) '0') ++ ds

/-- Date and time of day, with the given separator between them. -/
def wallText (separator : String) (wall : Int) : String :=
  let d := Date.ofDays (wall / day).toNat
  let t := (wall % day).toNat
  let us := t % 1000000
  let s := t / 1000000
  padded 4 d.year ++ "-" ++ padded 2 d.month ++ "-" ++ padded 2 d.day ++ separator
    ++ padded 2 (s / 3600) ++ ":" ++ padded 2 (s / 60 % 60) ++ ":" ++ padded 2 (s % 60)
    ++ (if us = 0 then "" else "." ++ padded 6 us)

/-- A distance from UTC: hours and minutes, seconds and microseconds if there are some. -/
def offsetText (offset : Int) : String :=
  let t := offset.natAbs
  let us := t % 1000000
  let s := t / 1000000
  (if offset < 0 then "-" else "+") ++ padded 2 (s / 3600) ++ ":" ++ padded 2 (s / 60 % 60)
    ++ (if s % 60 = 0 && us = 0 then ""
        else ":" ++ padded 2 (s % 60) ++ (if us = 0 then "" else "." ++ padded 6 us))

/-- A time as recorded in histories. -/
def Stamp.isoText (s : Stamp) : String :=
  wallText "T" s.wall ++ (s.offset.map offsetText).getD ""

def Moment.isoText (m : Moment) : String := m.toStamp.isoText

/-- A time as shown in the journal. -/
def Stamp.spacedText (s : Stamp) : String :=
  wallText " " s.wall ++ (s.offset.map offsetText).getD ""

def Moment.spacedText (m : Moment) : String := m.toStamp.spacedText

/-- A time as a JSON text. -/
def Stamp.jsonText (s : Stamp) : String :=
  wallText "T" s.wall ++
    match s.offset with
    | none => ""
    | some 0 => "Z"
    | some offset =>
      let minutes := offset.natAbs / minute.natAbs
      (if offset < 0 then "-" else "+") ++ padded 2 (minutes / 60) ++ ":"
        ++ padded 2 (minutes % 60)

namespace Iso

/-- Why a text is no time. -/
inductive Fault where
  | malformed
  /-- There is no such distance from UTC. -/
  | offset (span : Int)
  | year (n : Nat)
  | month
  | day
  | hour
  | minute
  | second
  deriving DecidableEq, Repr

/-- The number written by exactly `count` ASCII digits, and the rest. -/
def take? : Nat → Nat → List Char → Option (Nat × List Char)
  | 0, n, cs => some (n, cs)
  | count + 1, n, c :: cs => if c.isDigit then take? count (10 * n + (c.toNat - 48)) cs else none
  | _ + 1, _, [] => none

/-- Whether the text has a digit at a position. -/
def digitAt (cs : List Char) (i : Nat) : Bool := (cs[i]?).any Char.isDigit

/-- Where the date ends, by the characters at its fourth and fifth position. A
hyphen behind a week belongs to the time if digits follow it in pairs, and so does
the digit behind a week if that makes the digits even in number. -/
def dateLength? (cs : List Char) : Option Nat :=
  if cs.length = 7 then some 7
  else if cs[4]? = some '-' then
    if cs[5]? = some 'W' then
      if cs[8]? = some '-' then
        if cs.length = 9 then none else if digitAt cs 10 then some 8 else some 10
      else some 8
    else some 10
  else if cs[4]? = some 'W' then
    let stop := 7 + ((cs.drop 7).takeWhile Char.isDigit).length
    if stop < 9 then some stop else if stop % 2 = 0 then some 7 else some 8
  else some 8

/-- The weekday of a day, from zero for Monday. -/
def weekday (days : Nat) : Nat := days % 7

/-- How many weeks the year has. -/
def weekCount (year : Nat) : Nat :=
  let first := weekday (Date.toDays ⟨year, 1, 1⟩)
  if year ≠ 0 && (first = 3 || first = 2 && Date.isLeap year) then 53 else 52

/-- The date of a week date. The year 0 has weeks but no dates. -/
def ofWeek (year week dayOfWeek : Nat) : Date :=
  if year = 0 then ⟨1, 0, 0⟩
  else
    let first := Date.toDays ⟨year, 1, 1⟩
    let days := first + 7 * (week - 1) + (dayOfWeek - 1) - weekday first
    Date.ofDays (if weekday first ≤ 3 then days else days + 7)

/-- A week date behind the year and its letter. -/
def weekDate? (year : Nat) (hyphens : Bool) (cs : List Char) : Option Date := do
  let (week, cs) ← take? 2 0 cs
  let dayOfWeek ←
    match cs with
    | [] => some 1
    | c :: rest =>
      if hyphens && c ≠ '-' then none
      else (take? 1 0 (if hyphens then rest else cs)).map (·.1)
  if 0 < week && week ≤ weekCount year && 0 < dayOfWeek && dayOfWeek < 8 then
    some (ofWeek year week dayOfWeek)
  else none

/-- A calendar date behind the year. -/
def calendarDate? (year : Nat) (hyphens : Bool) (cs : List Char) : Option Date := do
  let (month, cs) ← take? 2 0 cs
  let cs ←
    match hyphens, cs with
    | false, _ => some cs
    | true, '-' :: rest => some rest
    | true, _ => none
  let (d, _) ← take? 2 0 cs
  return ⟨year, month, d⟩

/-- The date that a text is. -/
def date? (cs : List Char) : Option Date := do
  let (year, cs) ← take? 4 0 cs
  let (hyphens, cs) :=
    match cs with
    | '-' :: rest => (true, rest)
    | _ => (false, cs)
  match cs with
  | 'W' :: rest => weekDate? year hyphens rest
  | _ => calendarDate? year hyphens cs

/-- Hours, minutes, seconds and microseconds. -/
structure TimeOfDay where
  hours : Nat := 0
  minutes : Nat := 0
  seconds : Nat := 0
  micros : Nat := 0

def TimeOfDay.span (t : TimeOfDay) : Int :=
  ((t.hours * 3600 + t.minutes * 60 + t.seconds) * 1000000 + t.micros : Nat)

/-- The microseconds that the digits of a fraction come to; those beyond the sixth
do not count. -/
def microsOf (ds : List Char) : Nat :=
  ((ds ++ List.replicate 6 '0').take 6).foldl (fun n c => 10 * n + (c.toNat - 48)) 0

/-- A fraction of a second, and whether something is left over behind it. -/
def fraction? (cs : List Char) : Option (Nat × Bool) :=
  if (cs.take 6).all Char.isDigit then
    some (microsOf (cs.take 6), !((cs.drop 6).dropWhile Char.isDigit).isEmpty)
  else none

/-- The components of a time of day, `count` of them at most, behind those in
`done`, then a fraction; and whether something is left over. Either all components
are parted by colons or none. -/
def components? : Nat → Bool → List Nat → List Char → Option (List Nat × Nat × Bool)
  | 0, _, done, cs => (fraction? cs).map fun (micros, more) => (done, micros, more)
  | count + 1, colons, done, cs => do
    let (n, cs) ← take? 2 0 cs
    let colons := if done.isEmpty then cs.head? = some ':' else colons
    let done := done ++ [n]
    match cs with
    | [] => some (done, 0, false)
    | [_] => some (done, 0, true)
    | c :: rest =>
      if c = '.' || c = ',' then (fraction? rest).map fun (micros, more) => (done, micros, more)
      else if !colons then components? count colons done cs
      else if c = ':' then components? count colons done rest
      else none

/-- A time of day, and whether something is left over behind it. -/
def timeOfDay? (cs : List Char) : Option (TimeOfDay × Bool) :=
  (components? 3 false [] cs).map fun (ns, micros, more) =>
    (⟨(ns[0]?).getD 0, (ns[1]?).getD 0, (ns[2]?).getD 0, micros⟩, more)

/-- A distance from UTC behind its sign. Less than a second is none. -/
def offset? (negative : Bool) (cs : List Char) : Option Int :=
  match timeOfDay? cs with
  | some (t, false) =>
    if t.span < Calendar.second then some 0 else some (if negative then -t.span else t.span)
  | _ => none

/-- A time of day, and the distance from UTC behind it if there is one. -/
def time? (cs : List Char) : Option (TimeOfDay × Option Int) := do
  let isMark (c : Char) : Bool := c = '+' || c = '-' || c = 'Z'
  let (t, more) ← timeOfDay? (cs.takeWhile fun c => !isMark c)
  match cs.dropWhile fun c => !isMark c with
  | [] => if more then none else some (t, none)
  | 'Z' :: rest => if rest.isEmpty then some (t, some 0) else none
  | sign :: rest => (offset? (sign = '-') rest).map fun offset => (t, some offset)

/-- The time that a date, a time of day and a distance from UTC make. -/
def assemble (d : Date) (t : TimeOfDay) (offset : Option Int) : Except Fault Stamp :=
  match offset.filter fun o => o ≤ -Calendar.day || Calendar.day ≤ o with
  | some o => .error (.offset o)
  | none =>
    if d.year = 0 || 9999 < d.year then .error (.year d.year)
    else if d.month = 0 || 12 < d.month then .error .month
    else if d.day = 0 || Date.daysInMonth d.year d.month < d.day then .error .day
    else if 23 < t.hours then .error .hour
    else if 59 < t.minutes then .error .minute
    else if 59 < t.seconds then .error .second
    else .ok (.ofReading (d.toDays * day + t.span) offset)

/-- How many bytes the character has that begins with the given byte. -/
def byteCount (first : Char) : Nat :=
  if first.toNat < 0xe0 then if first.toNat < 0x80 then 1 else 2
  else if first.toNat < 0xf0 then 3 else 4

/-- The text with a half of a pair between date and time exchanged for a letter;
the half may stand at one of three places. -/
def withoutHalf (cs : List Char) : List Char :=
  match [7, 8, 10].find? fun i => (cs[i]?).any fun c => (Text.half? c).isSome with
  | some i => cs.set i 'T'
  | none => cs

/-- The bytes of a text, each as the character of its number; a text with halves of
pairs has none. -/
def bytes? (s : String) : Option (List Char) :=
  let cs := withoutHalf s.toList
  if cs.all fun c => (Text.half? c).isNone then some ((Text.toUtf8 cs).map Char.ofNat) else none

/-- Date, time of day and distance from UTC as the bytes of a text give them. -/
def parts? (cs : List Char) : Option (Date × TimeOfDay × Option Int) := do
  let length ← dateLength? cs
  let d ← date? (cs.take length)
  match cs.drop length with
  | [] => some (d, {}, none)
  | separator :: rest =>
    let (t, offset) ← time? ((separator :: rest).drop (byteCount separator))
    some (d, t, offset)

def read (s : String) : Except Fault Stamp :=
  match (bytes? s).bind parts? with
  | none => .error .malformed
  | some (d, t, offset) => assemble d t offset

end Iso

end Nurture.Calendar
