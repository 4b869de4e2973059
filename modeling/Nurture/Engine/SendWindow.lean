import Nurture.Calendar.Zone
import Nurture.Failure

/-!
  Send windows

  A message with a send time is sent at that time of day of a zone. An execution
  that comes too early or too late is parked for the next occurrence
  (`SendWindow.next`). When it is resumed, the occurrence it was parked for is
  found again from the time it was parked until (`SendWindow.parked`), and the
  window is open from then on for the grace period (`SendWindow.isOpen`).

  A time whose distance from UTC is unknown has a next occurrence as if it were
  UTC, but it cannot be related to an occurrence.
-/

namespace Nurture.SendWindow

open Calendar

/-- Midnight before or at a wall-clock reading. -/
def midnight (wall : Int) : Int := wall / day * day

/-- The reading of the same day at the given time, in the same pass. -/
def atTime (r : Reading) (hours minutes : Int) : Except Failure Reading :=
  if hours < 0 || 23 < hours then .error .noSuchHour
  else if minutes < 0 || 59 < minutes then .error .noSuchMinute
  else .ok { r with wall := midnight r.wall + hours * hour + minutes * minute }

/-- The reading so many days later, in the first pass. -/
def daysLater (r : Reading) (days : Int) : Except Failure Reading :=
  if inRange (r.wall + days * day) then .ok ⟨r.wall + days * day, false⟩
  else .error (.overflow .date)

/-- The moment of a time. One whose distance from UTC is unknown is taken for UTC;
the day before it must exist. -/
def momentOf (t : Stamp) : Except Failure Moment :=
  if t.isLocal && t.wall < day then .error (.notTime "" (.year 0)) else .ok t.toMoment

/-- What the zone's clocks show at a time, and what they show on that day at the
send time. -/
def sameDay (sendTime : String) (now : Stamp) (z : Zone) : Except Failure (Reading × Reading) := do
  let (hours, minutes) ← (SendTime.read sendTime).mapError .sendTime
  let r ← (z.localReading (← momentOf now)).mapError .overflow
  return (r, ← atTime r hours minutes)

/-- The next occurrence of the send time: today's, or tomorrow's when the clocks
show a later time already. -/
def next (sendTime : String) (now : Stamp) (z : Zone) : Except Failure Moment := do
  let (r, target) ← sameDay sendTime now z
  -- The clocks are compared, not the instants they show.
  let target ← if target.wall < r.wall then daysLater target 1 else pure target
  (z.momentOf target).mapError .overflow

/-- The first of the days whose occurrence is within the tolerance of a time. -/
def findWithin (anchor : Reading) (scheduled : Stamp) (z : Zone) (tolerance : Amount) :
    List Int → Except Failure (Option Moment)
  | [] => .ok none
  | days :: rest => do
    let r ← daysLater anchor days
    let window ← (z.momentOf r).mapError .overflow
    -- Only here is the time related to an occurrence.
    if scheduled.isLocal then .error (.unrelated .subtracted)
    if tolerance.covers (window.instant - scheduled.instant) then return some window
    else findWithin anchor scheduled z tolerance rest

/-- The occurrence of the send time that a time sits on, within the tolerance:
yesterday's, today's or tomorrow's. -/
def parked (sendTime : String) (scheduled : Stamp) (z : Zone) (tolerance : Amount) :
    Except Failure (Option Moment) := do
  let (_, anchor) ← sameDay sendTime scheduled z
  findWithin anchor scheduled z tolerance [-1, 0, 1]

/-- Whether an execution that was parked until `scheduled` may send at `now`. -/
def isOpen (sendTime : String) (scheduled now : Stamp) (z : Zone) (tolerance grace : Amount) :
    Except Failure Bool := do
  match ← parked sendTime scheduled z tolerance with
  | none => return false
  | some window =>
    let span ← grace.toSpan.mapError .span
    let last ← (window.add span).mapError .overflow
    if now.isLocal then .error (.unrelated .compared)
    return now.instant ≤ last.instant

end Nurture.SendWindow
