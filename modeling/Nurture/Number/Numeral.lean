import Nurture.Number.Binary64
import Nurture.Text.Blank
import Nurture.Text.DecimalDigit

/-!
  Numerals

  Two readings of a text as a number. The strict one serves send times and
  settings: white space around, one sign, decimal digits of any script with
  single underscores between them. The lenient one serves data from outside:
  ASCII digits only, but leading zeros, underscores and a fraction of zeros are
  let through.
-/

namespace Nurture.Numeral

/-- The most digits an integer may be written with. -/
def maxDigits : Nat := 4300

/-- Why a text is no integer. -/
inductive Fault where
  | malformed
  | tooLong (digits : Nat)
  deriving DecidableEq, Repr

/-- A leading sign and what follows it. -/
def splitSign : List Char → Bool × List Char
  | '+' :: cs => (false, cs)
  | '-' :: cs => (true, cs)
  | cs => (false, cs)

/-- The digits at the head of a text, single underscores between them left out,
and the rest. A text that does not start with a digit, or breaks off behind an
underscore, has none. -/
def digitRun (value : Char → Option Nat) : List Char → Option (List Nat × List Char)
  | [] => none
  | c :: cs =>
    match value c with
    | none => none
    | some d =>
      match cs with
      | [] => some ([d], [])
      | u :: rest =>
        if u = '_' then (digitRun value rest).map fun (ds, r) => (d :: ds, r)
        else if (value u).isSome then (digitRun value (u :: rest)).map fun (ds, r) => (d :: ds, r)
        else some ([d], u :: rest)

/-- The number that digits write, the most significant first. -/
def ofDigits (ds : List Nat) : Nat := ds.foldl (fun n d => 10 * n + d) 0

/-- The integer with the given sign. -/
def signed (negative : Bool) (n : Nat) : Int := if negative then -(n : Int) else n

/-- Reads an integer strictly. -/
def readInteger (s : String) : Except Fault Int :=
  let (negative, cs) := splitSign (Text.trimBy Text.isBlank s.toList)
  match digitRun Text.decimalValue? cs with
  | none => .error .malformed
  | some (ds, rest) =>
    if maxDigits < ds.length then .error (.tooLong ds.length)
    else if rest.isEmpty then .ok (signed negative (ofDigits ds))
    else .error .malformed

/-- The value of an ASCII digit. -/
def asciiValue? (c : Char) : Option Nat := if c.isDigit then some (c.toNat - 48) else none

/-- The digits at the head of a text, none allowed, and the rest. -/
def digitRun0 (value : Char → Option Nat) (cs : List Char) : Option (List Nat × List Char) :=
  match cs with
  | [] => some ([], [])
  | c :: _ => if (value c).isSome then digitRun value cs else some ([], cs)

/-- The exponent part of a decimal: an `e`, a sign, digits. Nothing may follow. -/
def exponentPart (value : Char → Option Nat) : List Char → Option Int
  | [] => some 0
  | c :: cs =>
    if c = 'e' || c = 'E' then
      let (negative, cs) := splitSign cs
      match digitRun value cs with
      | some (ds, []) => some (signed negative (ofDigits ds))
      | _ => none
    else none

/-- An unsigned decimal: digits, a point, digits, an exponent; one of the two
runs of digits may be missing, and the point with the second. -/
def unsignedDecimal (negative : Bool) (value : Char → Option Nat) (cs : List Char) :
    Option Binary64 := do
  let (whole, rest) ← digitRun0 value cs
  let (fraction, rest) ←
    match rest with
    | '.' :: more => digitRun0 value more
    | _ => some ([], rest)
  if whole.isEmpty && fraction.isEmpty then none
  let e ← exponentPart value rest
  return Binary64.ofDecimal negative (ofDigits (whole ++ fraction)) (e - fraction.length)

/-- The names of the numbers without digits, in any ASCII case. -/
def namedNumber (negative : Bool) (cs : List Char) : Option Binary64 :=
  let word := String.ofList (cs.map Char.toLower)
  if word = "inf" || word = "infinity" then some (.infinity negative)
  else if word = "nan" then some .nan
  else none

/-- Reads a decimal strictly. -/
def readDecimal (s : String) : Option Binary64 :=
  let (negative, cs) := splitSign (Text.trimBy Text.isBlank s.toList)
  (namedNumber negative cs).orElse fun _ => unsignedDecimal negative Text.decimalValue? cs

/-! ## The lenient reading -/

/-- The text without underscores, if it has some, single and between other
characters. -/
def dropUnderscores (cs : List Char) : Option (List Char) :=
  let rec doubled : List Char → Bool
    | '_' :: '_' :: _ => true
    | _ :: rest => doubled rest
    | [] => false
  if cs.head? = some '_' || cs.getLast? = some '_' || doubled cs || !cs.contains '_' then none
  else some (cs.filter (· ≠ '_'))

/-- The rest of a text behind zeros and underscores; `before` is what has just
been passed. A minus sign may stand behind them. -/
def afterZeros (before : Char) : List Char → Option (List Char)
  | [] => some [before]
  | c :: cs =>
    if c = '0' || c = '_' then afterZeros c cs
    else if c.isDigit || c = '-' then some (c :: cs)
    else if c = '.' then some (before :: c :: cs)
    else none

/-- The text without the zeros in front of its first other digit, or its sign. -/
def dropLeadingZeros : List Char → Option (List Char)
  | [] => none
  | c :: cs =>
    if c = '0' then afterZeros c cs else if c.isDigit || c = '-' then some (c :: cs) else none

/-- The text in front of a point that zeros and nothing else follow, or the text
itself. -/
def dropZeroFraction (cs : List Char) : List Char :=
  match cs.dropWhile (· ≠ '.') with
  | _ :: zeros =>
    if !zeros.isEmpty && zeros.all (· = '0') then cs.takeWhile (· ≠ '.') else cs
  | [] => cs

/-- The text without a plus sign, behind which no other sign may stand. -/
def dropPlus : List Char → Option (List Char)
  | '+' :: '-' :: _ => none
  | '+' :: cs => some cs
  | cs => some cs

/-- An integer in its plain form: a minus sign or none, and digits that do not
begin with a zero unless it is the only one. -/
def plainInteger (cs : List Char) : Except Fault Int :=
  let (negative, digits) :=
    match cs with
    | '-' :: rest => (true, rest)
    | _ => (false, cs)
  let run := digits.takeWhile Char.isDigit
  if maxDigits < run.length + (if negative then 1 else 0) then .error (.tooLong run.length)
  else if run.isEmpty || run.length ≠ digits.length then .error .malformed
  else if run.head? = some '0' && 1 < run.length then .error .malformed
  else .ok (signed negative (ofDigits (run.map (·.toNat - 48))))

/-- Reads an integer leniently. -/
def readIntegerLeniently (s : String) : Except Fault Int :=
  match (dropPlus (Text.trimBy Text.isBlank s.toList)).bind dropLeadingZeros with
  | none => .error .malformed
  | some cs =>
    let cs := dropZeroFraction cs
    plainInteger ((dropUnderscores cs).getD cs)

/-- Reads a decimal leniently: with blanks around it, or with underscores in it. -/
def readDecimalLeniently (s : String) : Option Binary64 :=
  let read (cs : List Char) : Option Binary64 :=
    let (negative, cs) := splitSign cs
    (namedNumber negative cs).orElse fun _ =>
      if cs.contains '_' then none else unsignedDecimal negative asciiValue? cs
  (read (Text.trimBy Text.isBlank s.toList)).orElse fun _ =>
    (dropUnderscores s.toList).bind read

end Nurture.Numeral
