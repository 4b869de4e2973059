import Nurture.Calendar.Date

/-!
  Moments

  Times are counted in microseconds. A `Moment` is a wall-clock reading, counted
  from the start of year 1, together with the distance of that clock from UTC;
  its `instant` is the reading a UTC clock shows at the same time, and moments
  are compared by it.
-/

namespace Nurture.Calendar

/-- Microseconds of a second. -/
def second : Int := 1000000

def minute : Int := 60 * second

def hour : Int := 60 * minute

def day : Int := 24 * hour

/-- The end of year 9999. -/
def endOfTime : Int := Date.dayCount * day

/-- Whether a wall clock of the years 1 to 9999 can show the reading. -/
def inRange (wall : Int) : Bool := 0 ≤ wall && wall < endOfTime

/-- What can go wrong in reckoning with times. -/
inductive Overflow where
  /-- The result is no date of the years 1 to 9999. -/
  | date
  /-- A span of so many days is too long. -/
  | days (count : Int)
  /-- A span of days does not fit a machine word. -/
  | word
  deriving DecidableEq, Repr

/-- A reading of a wall clock that is `offset` ahead of UTC. -/
structure Moment where
  wall : Int
  offset : Int
  deriving DecidableEq, Repr

namespace Moment

/-- The reading of a UTC clock. -/
def instant (m : Moment) : Int := m.wall - m.offset

/-- The moment at which a UTC clock shows the reading. -/
def ofInstant (t : Int) : Moment := ⟨t, 0⟩

/-- The moment as a UTC clock shows it. -/
def toUtc (m : Moment) : Except Overflow Moment :=
  if m.offset = 0 then .ok m
  else if inRange m.instant then .ok (ofInstant m.instant) else .error .date

/-- The moment `span` later on the same clock. -/
def add (m : Moment) (span : Int) : Except Overflow Moment :=
  if inRange (m.wall + span) then .ok { m with wall := m.wall + span } else .error .date

@[simp] theorem instant_ofInstant (t : Int) : (ofInstant t).instant = t := by
  simp [ofInstant, instant]

theorem instant_of_toUtc {m u : Moment} (h : m.toUtc = .ok u) : u.instant = m.instant := by
  unfold toUtc at h
  split at h
  · cases h; rfl
  · split at h
    · cases h; simp
    · cases h

theorem offset_of_toUtc {m u : Moment} (h : m.toUtc = .ok u) : u.offset = 0 := by
  unfold toUtc at h
  split at h
  · rename_i h0
    cases h; exact h0
  · split at h
    · cases h; rfl
    · cases h

theorem instant_of_add {m n : Moment} {span : Int} (h : m.add span = .ok n) :
    n.instant = m.instant + span := by
  unfold add at h
  split at h
  · cases h
    simp only [instant]
    omega
  · cases h

end Moment

end Nurture.Calendar
