import Nurture.Calendar.Zone

/-!
  Stamps

  A stamp is a time as it is handed in: a reading of a clock whose distance from UTC is unknown,
  and which is then taken for UTC; a reading of a clock that is always equally far from UTC; or what
  the clocks of a zone show at an instant. Stamps are compared by their instants, but a span is
  added to what the clock shows. A zone's clock shows the sum in the first pass, so where clocks are
  put back a sum may lie before the time that the span was added to (`Stamp.GoesOn` excludes
  that).
-/

namespace Nurture.Calendar

/-- A time as a clock shows it. -/
inductive Stamp where
  /-- The clock is an unknown distance from UTC. -/
  | floating (wall : Int)
  /-- The clock is always `offset` ahead of UTC. -/
  | ahead (wall offset : Int)
  /-- The clock is one of the zone, at the instant. -/
  | shown (zone : Zone) (instant : Int)
  deriving DecidableEq, Repr

def Moment.toStamp (m : Moment) : Stamp := .ahead m.wall m.offset

namespace Stamp

/-- A reading whose distance from UTC may be given. -/
def ofReading (wall : Int) : Option Int → Stamp
  | none => floating wall
  | some offset => ahead wall offset

/-- What the clock shows. -/
def wall : Stamp → Int
  | floating wall => wall
  | ahead wall _ => wall
  | shown z t => (z.readingAt t).wall

/-- How far the clock is ahead of UTC, if that is known. -/
def offset : Stamp → Option Int
  | floating _ => none
  | ahead _ offset => some offset
  | shown z t => some (z.offsetAt t)

/-- The reading of a UTC clock; an unknown distance is taken for none. -/
def instant (s : Stamp) : Int := s.wall - s.offset.getD 0

/-- Whether the distance from UTC is unknown. -/
def isLocal (s : Stamp) : Bool := s.offset.isNone

/-- The stamp as a moment; an unknown distance is taken for none. -/
def toMoment (s : Stamp) : Moment := ⟨s.wall, s.offset.getD 0⟩

/-- The stamp as a UTC clock shows it; an unknown distance is taken for none. -/
def toUtc (s : Stamp) : Except Overflow Moment := s.toMoment.toUtc

/-- The stamp at which the clock shows `span` more. On a zone's clock the distance from UTC is the
one that belongs to the sum, read in the first pass. -/
def plus (s : Stamp) (span : Int) : Stamp :=
  match s with
  | floating wall => floating (wall + span)
  | ahead wall offset => ahead (wall + span) offset
  | shown z _ => ahead (s.wall + span) (z.offsetOf ⟨s.wall + span, false⟩)

/-- The time `span` later on the same clock. -/
def add (s : Stamp) (span : Int) : Except Overflow Stamp :=
  if inRange (s.wall + span) then .ok (s.plus span) else .error .date

/-- Whether the clock is always equally far from UTC. -/
def IsFixed : Stamp → Prop
  | shown .. => False
  | _ => True

instance : (s : Stamp) → Decidable s.IsFixed
  | floating _ => isTrue trivial
  | ahead .. => isTrue trivial
  | shown .. => isFalse id

/-- An hour or more later on its clock is later. -/
def GoesOn (s : Stamp) : Prop := ∀ span t, hour ≤ span → s.add span = .ok t → s.instant < t.instant

@[simp] theorem instant_toMoment (s : Stamp) : s.toMoment.instant = s.instant := rfl

@[simp] theorem instant_toStamp (m : Moment) : m.toStamp.instant = m.instant := rfl

@[simp] theorem instant_ahead (wall offset : Int) : (ahead wall offset).instant = wall - offset :=
  rfl

@[simp] theorem instant_shown (z : Zone) (t : Int) : (shown z t).instant = t := by
  show t + z.offsetAt t - z.offsetAt t = t
  omega

@[simp] theorem wall_plus (s : Stamp) (span : Int) : (s.plus span).wall = s.wall + span := by
  cases s <;> rfl

theorem eq_plus_of_add {s t : Stamp} {span : Int} (h : s.add span = .ok t) : t = s.plus span := by
  unfold add at h
  split at h
  · exact (Except.ok.inj h).symm
  · cases h

theorem instant_plus {s : Stamp} (hs : s.IsFixed) (span : Int) :
    (s.plus span).instant = s.instant + span := by
  cases s with
  | floating wall =>
    show wall + span - 0 = wall - 0 + span
    omega
  | ahead wall offset =>
    show wall + span - offset = wall - offset + span
    omega
  | shown z t => exact hs.elim

theorem IsFixed.goesOn {s : Stamp} (hs : s.IsFixed) : s.GoesOn := by
  intro span t hspan h
  have hhour : 0 < hour := by decide
  rw [eq_plus_of_add h, instant_plus hs]
  omega

end Stamp

end Nurture.Calendar
