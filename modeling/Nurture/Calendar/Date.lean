/-!
  Dates

  The proleptic Gregorian calendar of the years 1 to 9999, with days counted
  from the first of January of year 1. `toDays` numbers a date and `ofDays`
  finds the date of a number.
-/

namespace Nurture.Calendar

/-- A date of the Gregorian calendar. -/
structure Date where
  year : Nat
  month : Nat
  day : Nat
  deriving DecidableEq, Repr

namespace Date

/-- Whether the year has a 29th of February. -/
def isLeap (year : Nat) : Bool := year % 4 == 0 && (year % 100 != 0 || year % 400 == 0)

def monthLengths (leap : Bool) : List Nat :=
  [31, if leap then 29 else 28, 31, 30, 31, 30, 31, 31, 30, 31, 30, 31]

/-- The length of a month; zero for a month that does not exist. -/
def daysInMonth (year month : Nat) : Nat :=
  if month = 0 then 0 else ((monthLengths (isLeap year))[month - 1]?).getD 0

/-- The days of the first `n` months of a list of lengths. -/
def daysBeforeMonth : List Nat → Nat → Nat
  | len :: rest, n + 1 => len + daysBeforeMonth rest n
  | _, _ => 0

/-- The days of all years before the given one. -/
def daysBeforeYear (year : Nat) : Nat :=
  let y := year - 1
  365 * y + y / 4 - y / 100 + y / 400

def isValid (d : Date) : Bool :=
  1 ≤ d.year && d.year ≤ 9999 && 1 ≤ d.month && d.month ≤ 12
    && 1 ≤ d.day && d.day ≤ daysInMonth d.year d.month

/-- The days from the first of January of year 1 to the date. -/
def toDays (d : Date) : Nat :=
  daysBeforeYear d.year + daysBeforeMonth (monthLengths (isLeap d.year)) (d.month - 1) + d.day - 1

/-- Finds month and day, both from one, of a day of the year, counted from zero. -/
def splitMonths : List Nat → Nat → Nat → Nat × Nat
  | [], month, n => (month, n + 1)
  | len :: rest, month, n =>
    if n < len then (month, n + 1) else splitMonths rest (month + 1) (n - len)

/-- The date that is `n` days after the first of January of year 1. -/
def ofDays (n : Nat) : Date :=
  let (n400, n) := (n / 146097, n % 146097)
  let (n100, n) := (n / 36524, n % 36524)
  let (n4, n) := (n / 1461, n % 1461)
  let (n1, n) := (n / 365, n % 365)
  let year := 400 * n400 + 100 * n100 + 4 * n4 + n1 + 1
  if n1 = 4 || n100 = 4 then ⟨year - 1, 12, 31⟩
  else
    let (month, day) := splitMonths (monthLengths (isLeap year)) 1 n
    ⟨year, month, day⟩

/-- The days of the years 1 to 9999. -/
def dayCount : Nat := 3652059

theorem toDays_first : toDays ⟨1, 1, 1⟩ = 0 := by decide

theorem toDays_last : toDays ⟨9999, 12, 31⟩ + 1 = dayCount := by decide

end Date

end Nurture.Calendar
