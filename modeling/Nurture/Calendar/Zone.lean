import Nurture.Calendar.Moment

/-!
  Time zones

  A zone says how far its wall clocks are ahead of UTC at each instant. Where
  the distance shrinks, the clocks are put back and read the same times twice;
  where it grows, they skip some. A `Reading` of a wall clock therefore says
  whether it is the second of two. `Zone.offsetOf` finds the distance from UTC
  that belongs to a reading: for a time that is skipped, the distance before the
  change on the first pass and the one after it on the second.
-/

namespace Nurture.Calendar

/-- From `instant` on the clocks of the zone are `offset` ahead of UTC. -/
structure Change where
  instant : Int
  offset : Int
  deriving DecidableEq, Repr

/-- The rule of a zone's wall clocks. -/
inductive Zone where
  | utc
  | fixed (offset : Int)
  | regional (key : String) (initial : Int) (changes : List Change)
  deriving DecidableEq, Repr

/-- A reading of a wall clock, and whether the clock showed it before. -/
structure Reading where
  wall : Int
  again : Bool
  deriving DecidableEq, Repr

namespace Zone

/-- The distance in force at instant `t` when it was `current` before the changes. -/
def offsetAfter (t : Int) : Int → List Change → Int
  | current, [] => current
  | current, c :: rest => if c.instant ≤ t then offsetAfter t c.offset rest else current

/-- Whether instant `t` lies in the second pass of the times that the last
change before it repeats. -/
def repeats (t : Int) : Int → List Change → Bool
  | _, [] => false
  | current, c :: rest =>
    if c.instant ≤ t then
      match rest with
      | [] => t - c.instant < current - c.offset
      | next :: _ =>
        if next.instant ≤ t then repeats t c.offset rest else t - c.instant < current - c.offset
    else false

/-- The distance that belongs to a wall-clock reading. The reading from which on
a change counts is the later of its two readings on the first pass, and the
earlier on the second. -/
def offsetOfReading (r : Reading) : Int → List Change → Int
  | current, [] => current
  | current, c :: rest =>
    let start := c.instant + (if r.again then min current c.offset else max current c.offset)
    if start ≤ r.wall then offsetOfReading r c.offset rest else current

/-- How far the zone's clocks are ahead of UTC at an instant. -/
def offsetAt : Zone → Int → Int
  | utc, _ => 0
  | fixed offset, _ => offset
  | regional _ initial changes, t => offsetAfter t initial changes

/-- How far a clock of the zone that shows the reading is ahead of UTC. -/
def offsetOf : Zone → Reading → Int
  | utc, _ => 0
  | fixed offset, _ => offset
  | regional _ initial changes, r => offsetOfReading r initial changes

/-- What the zone's clocks show at an instant. -/
def readingAt (z : Zone) (t : Int) : Reading :=
  ⟨t + z.offsetAt t,
    match z with
    | regional _ initial changes => repeats t initial changes
    | _ => false⟩

/-- The instant at which the zone's clocks show the reading. -/
def instantOf (z : Zone) (r : Reading) : Int := r.wall - z.offsetOf r

/-- The moment as the zone's clocks show it. -/
def localReading (z : Zone) (m : Moment) : Except Overflow Reading :=
  let r := z.readingAt m.instant
  if inRange m.instant && inRange r.wall then .ok r else .error .date

/-- The moment of a reading, on a UTC clock. -/
def momentOf (z : Zone) (r : Reading) : Except Overflow Moment :=
  if inRange (z.instantOf r) then .ok (Moment.ofInstant (z.instantOf r)) else .error .date

/-- The moment as the zone's clocks show it, with their distance from UTC. -/
def show? (z : Zone) (m : Moment) : Except Overflow Moment :=
  (z.localReading m).map fun r => ⟨r.wall, z.offsetAt m.instant⟩

/-- Whether the zone's clocks are always equally far from UTC. -/
def IsConstant (z : Zone) : Prop := ∀ t u, z.offsetAt t = z.offsetAt u

def label : Zone → String
  | utc => "UTC"
  | fixed _ => "fixed"
  | regional key _ _ => key

theorem instantOf_readingAt_utc (t : Int) : utc.instantOf (utc.readingAt t) = t := by
  simp [instantOf, readingAt, offsetAt, offsetOf]

theorem instantOf_readingAt_fixed (offset t : Int) :
    (fixed offset).instantOf ((fixed offset).readingAt t) = t := by
  simp only [instantOf, readingAt, offsetAt, offsetOf]
  omega

end Zone

end Nurture.Calendar
