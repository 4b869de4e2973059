import Nurture.Calendar.Lenient
import Nurture.Text.Half
import Nurture.Validation.Checked

/-!
  Scalars in data from outside

  Texts must be texts. Numbers and booleans may be written as texts, whole
  numbers with a fraction of zeros, and each may stand for the other where no
  information is lost.
-/

namespace Nurture.Validation

open Checked
open Text (isWhole)

/-- A complaint about a text that does not read as it should; a half of a pair in it
comes first. -/
def complainText {α : Type} (c : Complaint) (s : String) : Checked α :=
  complain (if isWhole s then c else .notWhole) (.str s)

/-- Any text. -/
def text : Json → Checked String
  | .str s => good s
  | j => complain .notText j

/-- A text of at least `least` characters, without halves of pairs. -/
def textOf (least : Nat) : Json → Checked String
  | .str s =>
    if !isWhole s then complain .notWhole (.str s)
    else if s.length < least then complain (.tooShort least) (.str s)
    else good s
  | j => complain .notText j

def integer : Json → Checked Int
  | .int n => good n
  | .bool b => good (if b then 1 else 0)
  | .real x =>
    match x.toInt? with
    | some n => if n.natAbs < Word.bound 64 then good n else complain .tooManyDigits (.real x)
    | none => complain (if x.isFinite then .hasFraction else .notFinite) (.real x)
  | .str s =>
    match Numeral.readIntegerLeniently s with
    | .ok n => good n
    | .error .malformed => complainText .notIntegerText s
    | .error (.tooLong _) => complain .tooManyDigits (.str s)
  | j => complain .notInteger j

/-- An integer that is not negative. -/
def natural (j : Json) : Checked Int :=
  (integer j).andThen fun n => if n < 0 then complain .negative j else good n

/-- A number of the double format. -/
def number : Json → Checked Binary64
  | .real x => good x
  | .int n =>
    let x := Binary64.ofInt n
    if x.isFinite then good x else complain .notNumber (.int n)
  | .bool b => good (Binary64.ofInt (if b then 1 else 0))
  | .str s =>
    match Numeral.readDecimalLeniently s with
    | some x => good x
    | none => complainText .notNumberText s
  | j => complain .notNumber j

/-- The words for yes and no, in any ASCII case. -/
def booleanWord? (s : String) : Option Bool :=
  let word := String.ofList (s.toList.map Char.toLower)
  if ["1", "on", "t", "true", "y", "yes"].contains word then some true
  else if ["0", "off", "f", "false", "n", "no"].contains word then some false
  else none

/-- An integer as a boolean: zero or one; `fits` tells whether it is of the size of
a machine word. -/
def booleanOfInt (n : Int) (fits : Bool) (input : Json) : Checked Bool :=
  if n = 0 then good false
  else if n = 1 then good true
  else if fits then complain .notBooleanText input
  else complain .notBoolean input

def boolean : Json → Checked Bool
  | .bool b => good b
  | .int n => booleanOfInt n (Word.holds 64 n) (.int n)
  | .real x =>
    match x.toInt? with
    | some n => booleanOfInt n (n.natAbs < Word.bound 64) (.real x)
    | none => complain .notBoolean (.real x)
  | .str s =>
    match booleanWord? s with
    | some b => good b
    | none => complainText .notBooleanText s
  | j => complain .notBoolean j

def time (j : Json) : Checked Calendar.Stamp :=
  match Calendar.Lenient.read j with
  | .ok t => good t
  | .error .text =>
    match j with
    | .str s => complainText .notTimeText s
    | _ => complain .notTimeText j
  | .error .unheld => complain .unheldTime j
  | .error .kind => complain .notTime j

/-- Nothing, or a value that passes the check. -/
def orNull {α : Type} (check : Json → Checked α) : Json → Checked (Option α)
  | .null => good none
  | j => (check j).map some

/-- What a text among the given ones stands for. -/
def chosen? {α : Type} (choices : List (String × α)) : Json → Option α
  | .str s => (choices.find? fun c => c.1 == s).map (·.2)
  | _ => none

/-- A complaint about a value that is none of the choices; a half of a pair in a text
comes first. -/
def complainChoice {α : Type} (c : Complaint) : Json → Checked α
  | .str s => complainText c s
  | j => complain c j

/-- One of the words that a field admits, with what it stands for. -/
def literal {α : Type} (choices : List (String × α)) (j : Json) : Checked α :=
  match chosen? choices j with
  | some a => good a
  | none => complainChoice (.notLiteral (choices.map (·.1))) j

/-- One of the names of an enumeration, with what it stands for. -/
def choice {α : Type} (choices : List (String × α)) (j : Json) : Checked α :=
  match chosen? choices j with
  | some a => good a
  | none => complainChoice (.notChoice (choices.map (·.1))) j

/-- A list whose members pass the check. -/
def listOf {α : Type} (check : Json → Checked α) : Json → Checked (List α)
  | .arr items => each check items
  | j => complain .notList j

/-- An object of any fields. -/
def mapping : Json → Checked Json.Fields
  | .obj fields => good fields
  | j => complain .notMapping j

/-- An object whose values are texts. -/
def textMapping : Json → Checked (List (String × String))
  | .obj fields =>
    fields.foldr
      (fun f rest => ap (map (fun s ss => (f.1, s) :: ss) ((text f.2).within (.field f.1))) rest)
      (good [])
  | j => complain .notMapping j

/-- The fields of a record called `name`. -/
def record {α : Type} (name : String) (check : Json.Fields → Checked α) : Json → Checked α
  | .obj fields => check fields
  | j => complain (.notRecord name) j

/-- A field that must be given. -/
def required {α : Type} (fields : Json.Fields) (key : String) (check : Json → Checked α) :
    Checked α :=
  match fields.get? key with
  | some j => (check j).within (.field key)
  | none => bad [⟨.missing, [.field key], .obj fields⟩]

/-- A field with a value to be taken when it is not given. -/
def defaulted {α : Type} (fields : Json.Fields) (key : String) (value : α)
    (check : Json → Checked α) : Checked α :=
  match fields.get? key with
  | some j => (check j).within (.field key)
  | none => good value

/-- A field that may be missing or nothing. -/
def optional {α : Type} (fields : Json.Fields) (key : String) (check : Json → Checked α) :
    Checked (Option α) :=
  defaulted fields key none (orNull check)

theorem text_eq_good_iff {j : Json} {s : String} : text j = good s ↔ j = .str s := by
  cases j <;> simp [text, complain]

end Nurture.Validation
