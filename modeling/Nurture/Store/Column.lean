import Nurture.Failure
import Nurture.Json.Equality
import Nurture.Number.Word

/-!
  Columns of text

  A column of text takes texts as they are, unless they hold halves of surrogate
  pairs, and writes numbers and booleans in digits. It cannot hold lists and
  objects, nor integers beyond sixty-four bits; an undefined number counts as
  nothing.
-/

namespace Nurture.Column

/-- Numbers in columns have fifteen digits and are positional below 10^15. -/
def numberStyle : DecimalStyle where
  positionalFrom := -4
  positionalBelow := 15
  wholeMantissaPoint := true
  keptDigits := some 15

/-- A text that a column can hold or be searched for. -/
def whole (s : String) : Except Failure String :=
  match Text.encodingFault? s with
  | none => .ok s
  | some fault => .error (.notEncodable fault)

/-- What a column of text holds after it was given the value. -/
def text : Json → Except Failure (Option String)
  | .null => .ok none
  | .str s => (whole s).map some
  | .bool b => .ok (some (if b then "1" else "0"))
  | .int n =>
    if Word.holds 64 n then .ok (some (toString n)) else .error .columnOverflow
  | .real .nan => .ok none
  | .real x => .ok (some (if x.isZero then "0.0" else numberStyle.text "" "Inf" x))
  | .arr _ | .obj _ => .error .binding

/-- The text that a value restricts a column to, or none if the value counts as nothing. -/
def filter (j : Json) : Except Failure (Option String) :=
  if j.isGiven then text j else .ok none

/-- The text of a column that must hold one. -/
def given (t : Option String) : Except Failure String :=
  match t with
  | some s => .ok s
  | none => .error .constraint

/-- What a column of text holds after it was given a text or nothing. -/
def optional (s : Option String) : Except Failure (Option String) := text (.ofOption s)

/-- What a column that holds `held` holds after it was given the value. -/
def given? (held : Option String) (j : Json) : Except Failure (Option String) :=
  if (Json.ofOption held).same j then .ok held else text j

theorem whole_eq_ok {s : String} (h : Text.isWhole s = true) : whole s = .ok s := by
  rw [whole, Text.encodingFault?_eq_none_iff.mpr h]

theorem text_str {s : String} (h : Text.isWhole s = true) : text (.str s) = .ok (some s) := by
  rw [text, whole_eq_ok h]
  rfl

@[simp] theorem text_null : text .null = .ok none := rfl

@[simp] theorem given_some (s : String) : given (some s) = .ok s := rfl

end Nurture.Column
