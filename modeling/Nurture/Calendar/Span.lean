import Nurture.Calendar.Moment
import Nurture.Number.Binary64

/-!
  Spans of time

  A span is a count of microseconds, of at most `maxDays` days either way. It is
  given as amounts of units, each of them whole or real. What a real amount comes
  to is kept apart from its fraction of a microsecond until all amounts are
  counted together; then a half goes to the even neighbour.
-/

namespace Nurture.Calendar

/-- A number of units. -/
inductive Amount where
  | whole (n : Int)
  | real (x : Binary64)
  deriving DecidableEq, Repr

namespace Span

/-- Why amounts make no span. -/
inductive Fault where
  | overflow (cause : Overflow)
  | undefined
  | infinite
  deriving DecidableEq, Repr

/-- The most days a span may have, either way. -/
def maxDays : Int := 999999999

/-- The span of so many microseconds. -/
def ofMicros (micros : Int) : Except Overflow Int :=
  let days := micros / day
  if !Word.holds 32 days then .error .word
  else if days < -maxDays || maxDays < days then .error (.days days)
  else .ok micros

def ofHours (hours : Int) : Except Overflow Int := ofMicros (hours * hour)

/-- The integer nearest to `num / den`, a half to the even one. -/
def nearestInt (num : Int) (den : Nat) : Int :=
  let q := num / den
  let twice := 2 * (num % den)
  if twice > den || (twice = den && q % 2 = 1) then q + 1 else q

/-- The whole units of a finite number, and what is left of it. -/
def split (mantissa : Nat) (exponent : Int) : Nat × Nat × Nat :=
  let (a, b) := Binary64.ratio mantissa exponent
  (a / b, a % b, b)

/-- A sum of amounts in microseconds: whole ones, and a fraction. -/
structure Total where
  micros : Int
  num : Int
  den : Nat

/-- The total with an amount of a unit counted in. The whole units are exact, the
fraction of a unit is rounded to the format of reals. -/
def Total.count (t : Total) (unit : Nat) : Amount → Except Fault Total
  | .whole n => .ok { t with micros := t.micros + n * unit }
  | .real .nan => .error .undefined
  | .real (.infinity _) => .error .infinite
  | .real (.finite negative m e) =>
    let (whole, num, den) := split m e
    match Binary64.nearest false (num * unit) den with
    | .finite _ m e =>
      let (more, num, den) := split m e
      let signed (n : Nat) : Int := if negative then -n else n
      .ok ⟨t.micros + signed (whole * unit + more), t.num * den + signed num * t.den, t.den * den⟩
    | _ => .error .infinite

/-- The sum of amounts, each of a unit of so many microseconds. -/
def total : Total → List (Nat × Amount) → Except Fault Total
  | t, [] => .ok t
  | t, (unit, a) :: rest => do
    let t ← t.count unit a
    total t rest

/-- The span of amounts, each of a unit of so many microseconds. -/
def ofAmounts (amounts : List (Nat × Amount)) : Except Fault Int := do
  let t ← total ⟨0, 0, 1⟩ amounts
  (ofMicros (nearestInt (t.micros * t.den + t.num) t.den)).mapError .overflow

end Span

namespace Amount

/-- The span of so many seconds. -/
def toSpan (seconds : Amount) : Except Span.Fault Int :=
  match seconds with
  | whole n => (Span.ofMicros (n * second)).mapError .overflow
  | real _ => Span.ofAmounts [(second.natAbs, seconds)]

/-- Whether a span is at most so many seconds, either way. -/
def covers (seconds : Amount) (span : Int) : Bool :=
  match seconds with
  | whole n => (span.natAbs : Int) ≤ n * second
  | real x => (Binary64.nearest false span.natAbs second.natAbs).atMost x

end Amount

namespace Span

theorem ofMicros_eq {micros span : Int} (h : ofMicros micros = .ok span) : span = micros := by
  unfold ofMicros at h
  simp only at h
  split at h
  · cases h
  · split at h
    · cases h
    · cases h; rfl

theorem ofHours_eq {hours span : Int} (h : ofHours hours = .ok span) : span = hours * hour :=
  ofMicros_eq h

end Span

theorem Amount.toSpan_whole {n span : Int} (h : (Amount.whole n).toSpan = .ok span) :
    span = n * second := by
  replace h : (Span.ofMicros (n * second)).mapError Span.Fault.overflow = .ok span := h
  cases hs : Span.ofMicros (n * second) with
  | error e =>
    rw [hs] at h
    cases h
  | ok v =>
    rw [hs] at h
    cases h
    exact Span.ofMicros_eq hs

end Nurture.Calendar
