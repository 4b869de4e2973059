import Nurture.Calendar.Zone

/-!
  Zones by name

  A zone is named `UTC`, in any case, or by its key in the table: a relative
  path in normal form. Keys that are no such paths are told apart from keys that
  the table lacks.
-/

namespace Nurture.Calendar

/-- Why a name is not a zone. -/
inductive ZoneFault where
  | absolute (key : String)
  | notNormal (key : String)
  | outside (key : String)
  | unknown (key : String)
  /-- The key holds a null character. -/
  | null
  deriving DecidableEq, Repr

namespace Zone

/-- The instant of a time of day, UTC. -/
def utcInstant (year month dayOfMonth hours minutes : Nat) : Int :=
  (Date.toDays ⟨year, month, dayOfMonth⟩ : Int) * day + hours * hour + minutes * minute

/-- The regional zones, with their changes from 2018 to 2025; those of St John's from 2010,
when its clocks were last put back across midnight. -/
def table : List Zone :=
  [ regional "America/Sao_Paulo" (-2 * hour)
      [⟨utcInstant 2018 2 18 2 0, -3 * hour⟩, ⟨utcInstant 2018 11 4 3 0, -2 * hour⟩,
       ⟨utcInstant 2019 2 17 2 0, -3 * hour⟩],
    regional "America/New_York" (-5 * hour)
      [⟨utcInstant 2018 3 11 7 0, -4 * hour⟩, ⟨utcInstant 2018 11 4 6 0, -5 * hour⟩,
       ⟨utcInstant 2019 3 10 7 0, -4 * hour⟩, ⟨utcInstant 2019 11 3 6 0, -5 * hour⟩,
       ⟨utcInstant 2020 3 8 7 0, -4 * hour⟩, ⟨utcInstant 2020 11 1 6 0, -5 * hour⟩,
       ⟨utcInstant 2021 3 14 7 0, -4 * hour⟩, ⟨utcInstant 2021 11 7 6 0, -5 * hour⟩,
       ⟨utcInstant 2022 3 13 7 0, -4 * hour⟩, ⟨utcInstant 2022 11 6 6 0, -5 * hour⟩,
       ⟨utcInstant 2023 3 12 7 0, -4 * hour⟩, ⟨utcInstant 2023 11 5 6 0, -5 * hour⟩,
       ⟨utcInstant 2024 3 10 7 0, -4 * hour⟩, ⟨utcInstant 2024 11 3 6 0, -5 * hour⟩,
       ⟨utcInstant 2025 3 9 7 0, -4 * hour⟩, ⟨utcInstant 2025 11 2 6 0, -5 * hour⟩],
    regional "America/St_Johns" (-(3 * hour + 30 * minute))
      [⟨utcInstant 2010 3 14 3 31, -(2 * hour + 30 * minute)⟩,
       ⟨utcInstant 2010 11 7 2 31, -(3 * hour + 30 * minute)⟩,
       ⟨utcInstant 2011 3 13 3 31, -(2 * hour + 30 * minute)⟩,
       ⟨utcInstant 2011 11 6 4 30, -(3 * hour + 30 * minute)⟩,
       ⟨utcInstant 2012 3 11 5 30, -(2 * hour + 30 * minute)⟩,
       ⟨utcInstant 2012 11 4 4 30, -(3 * hour + 30 * minute)⟩,
       ⟨utcInstant 2013 3 10 5 30, -(2 * hour + 30 * minute)⟩,
       ⟨utcInstant 2013 11 3 4 30, -(3 * hour + 30 * minute)⟩,
       ⟨utcInstant 2014 3 9 5 30, -(2 * hour + 30 * minute)⟩,
       ⟨utcInstant 2014 11 2 4 30, -(3 * hour + 30 * minute)⟩,
       ⟨utcInstant 2015 3 8 5 30, -(2 * hour + 30 * minute)⟩,
       ⟨utcInstant 2015 11 1 4 30, -(3 * hour + 30 * minute)⟩,
       ⟨utcInstant 2016 3 13 5 30, -(2 * hour + 30 * minute)⟩,
       ⟨utcInstant 2016 11 6 4 30, -(3 * hour + 30 * minute)⟩,
       ⟨utcInstant 2017 3 12 5 30, -(2 * hour + 30 * minute)⟩,
       ⟨utcInstant 2017 11 5 4 30, -(3 * hour + 30 * minute)⟩,
       ⟨utcInstant 2018 3 11 5 30, -(2 * hour + 30 * minute)⟩,
       ⟨utcInstant 2018 11 4 4 30, -(3 * hour + 30 * minute)⟩,
       ⟨utcInstant 2019 3 10 5 30, -(2 * hour + 30 * minute)⟩,
       ⟨utcInstant 2019 11 3 4 30, -(3 * hour + 30 * minute)⟩,
       ⟨utcInstant 2020 3 8 5 30, -(2 * hour + 30 * minute)⟩,
       ⟨utcInstant 2020 11 1 4 30, -(3 * hour + 30 * minute)⟩,
       ⟨utcInstant 2021 3 14 5 30, -(2 * hour + 30 * minute)⟩,
       ⟨utcInstant 2021 11 7 4 30, -(3 * hour + 30 * minute)⟩,
       ⟨utcInstant 2022 3 13 5 30, -(2 * hour + 30 * minute)⟩,
       ⟨utcInstant 2022 11 6 4 30, -(3 * hour + 30 * minute)⟩,
       ⟨utcInstant 2023 3 12 5 30, -(2 * hour + 30 * minute)⟩,
       ⟨utcInstant 2023 11 5 4 30, -(3 * hour + 30 * minute)⟩,
       ⟨utcInstant 2024 3 10 5 30, -(2 * hour + 30 * minute)⟩,
       ⟨utcInstant 2024 11 3 4 30, -(3 * hour + 30 * minute)⟩,
       ⟨utcInstant 2025 3 9 5 30, -(2 * hour + 30 * minute)⟩,
       ⟨utcInstant 2025 11 2 4 30, -(3 * hour + 30 * minute)⟩],
    regional "Europe/London" 0
      [⟨utcInstant 2018 3 25 1 0, hour⟩, ⟨utcInstant 2018 10 28 1 0, 0⟩,
       ⟨utcInstant 2019 3 31 1 0, hour⟩, ⟨utcInstant 2019 10 27 1 0, 0⟩,
       ⟨utcInstant 2020 3 29 1 0, hour⟩, ⟨utcInstant 2020 10 25 1 0, 0⟩,
       ⟨utcInstant 2021 3 28 1 0, hour⟩, ⟨utcInstant 2021 10 31 1 0, 0⟩,
       ⟨utcInstant 2022 3 27 1 0, hour⟩, ⟨utcInstant 2022 10 30 1 0, 0⟩,
       ⟨utcInstant 2023 3 26 1 0, hour⟩, ⟨utcInstant 2023 10 29 1 0, 0⟩,
       ⟨utcInstant 2024 3 31 1 0, hour⟩, ⟨utcInstant 2024 10 27 1 0, 0⟩,
       ⟨utcInstant 2025 3 30 1 0, hour⟩, ⟨utcInstant 2025 10 26 1 0, 0⟩],
    regional "Australia/Lord_Howe" (11 * hour)
      [⟨utcInstant 2018 3 31 15 0, 10 * hour + 30 * minute⟩,
       ⟨utcInstant 2018 10 6 15 30, 11 * hour⟩,
       ⟨utcInstant 2019 4 6 15 0, 10 * hour + 30 * minute⟩,
       ⟨utcInstant 2019 10 5 15 30, 11 * hour⟩,
       ⟨utcInstant 2020 4 4 15 0, 10 * hour + 30 * minute⟩,
       ⟨utcInstant 2020 10 3 15 30, 11 * hour⟩,
       ⟨utcInstant 2021 4 3 15 0, 10 * hour + 30 * minute⟩,
       ⟨utcInstant 2021 10 2 15 30, 11 * hour⟩,
       ⟨utcInstant 2022 4 2 15 0, 10 * hour + 30 * minute⟩,
       ⟨utcInstant 2022 10 1 15 30, 11 * hour⟩,
       ⟨utcInstant 2023 4 1 15 0, 10 * hour + 30 * minute⟩,
       ⟨utcInstant 2023 9 30 15 30, 11 * hour⟩,
       ⟨utcInstant 2024 4 6 15 0, 10 * hour + 30 * minute⟩,
       ⟨utcInstant 2024 10 5 15 30, 11 * hour⟩,
       ⟨utcInstant 2025 4 5 15 0, 10 * hour + 30 * minute⟩,
       ⟨utcInstant 2025 10 4 15 30, 11 * hour⟩],
    regional "Asia/Kolkata" (5 * hour + 30 * minute) [],
    regional "Asia/Kathmandu" (5 * hour + 45 * minute) [] ]

/-- The parts of a path, with `.` and empty parts left out and `..` undoing the
part before it. -/
def normalParts (parts : List (List Char)) : List (List Char) :=
  (parts.foldl
    (fun done part =>
      if part = [] || part = ['.'] then done
      else if part = ['.', '.'] then
        match done with
        | last :: before => if last = ['.', '.'] then part :: done else before
        | [] => [part]
      else part :: done)
    []).reverse

def pathParts (path : List Char) : List (List Char) :=
  let rec pieces : List Char → List Char → List (List Char)
    | piece, [] => [piece.reverse]
    | piece, c :: cs => if c = '/' then piece.reverse :: pieces [] cs else pieces (c :: piece) cs
  pieces [] path

/-- The path of the parts; a path without any is that of the place itself. -/
def ofParts : List (List Char) → List Char
  | [] => ['.']
  | parts => ['/'].intercalate parts

/-- Whether a path in normal form leads out of the place called `_` from which it is
followed. -/
def leadsOut : List (List Char) → Bool
  | [] => true
  | [['.', '.'], ['_']] => true
  | ['.', '.'] :: ['_'] :: _ => false
  | first :: _ => first = ['.', '.']

/-- The regions that zones are gathered in. -/
def regions : List String :=
  ["", "Africa", "America", "America/Argentina", "America/Indiana", "America/Kentucky",
   "America/North_Dakota", "Antarctica", "Arctic", "Asia", "Atlantic", "Australia", "Brazil",
   "Canada", "Chile", "Etc", "Europe", "Indian", "Mexico", "Pacific", "US"]

/-- Whether a zone is sought in a region under a name that holds a null character. -/
def endsInNull (parts : List (List Char)) : Bool :=
  (parts.getLast?.getD []).contains (Char.ofNat 0)
    && regions.contains (String.ofList (['/'].intercalate parts.dropLast))

/-- The zone of a name. -/
def ofName (name : String) : Except ZoneFault Zone :=
  let cs := name.toList
  let parts := normalParts (pathParts cs)
  if cs.map Char.toUpper = ['U', 'T', 'C'] then .ok utc
  else if cs.head? = some '/' then .error (.absolute name)
  else if (ofParts parts).length ≠ cs.length then .error (.notNormal name)
  else if leadsOut parts then .error (.outside name)
  else
    match table.find? fun z => z.label == name with
    | some z => .ok z
    | none => .error (if endsInNull parts then .null else .unknown name)

end Zone

end Nurture.Calendar
