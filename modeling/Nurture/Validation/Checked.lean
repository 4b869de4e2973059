import Nurture.Validation.Issue

/-!
  Checked data

  The result of a check: a value, or the issues found. The checks of the parts
  of a record are combined so that the issues of all parts are kept, in the
  order of the parts.
-/

namespace Nurture.Validation

/-- A value that passed its check, or what was found against it. -/
inductive Checked (α : Type) where
  | good (value : α)
  | bad (issues : List Issue)

namespace Checked

variable {α β : Type}

/-- Applies a function to a value that passed. -/
def map (f : α → β) : Checked α → Checked β
  | good a => good (f a)
  | bad issues => bad issues

/-- Combines two checks; both have their say. -/
def ap : Checked (α → β) → Checked α → Checked β
  | good f, good a => good (f a)
  | good _, bad issues => bad issues
  | bad issues, good _ => bad issues
  | bad issues, bad more => bad (issues ++ more)

instance : Functor Checked where
  map := map

instance : Applicative Checked where
  pure := good
  seq f x := ap f (x ())

/-- Goes on with a further check once the first has passed. -/
def andThen (c : Checked α) (f : α → Checked β) : Checked β :=
  match c with
  | good a => f a
  | bad issues => bad issues

/-- The check of a part, seen from the whole. -/
def within (place : Place) : Checked α → Checked α
  | good a => good a
  | bad issues => bad (issues.map fun i => { i with place := place :: i.place })

/-- One issue with the value as a whole. -/
def complain (c : Complaint) (input : Json) : Checked α := bad [⟨c, [], input⟩]

/-- Checks every member of a list. -/
def each (check : Json → Checked α) (items : List Json) : Checked (List α) :=
  let rec go : Nat → List Json → Checked (List α)
    | _, [] => good []
    | i, j :: rest => ap (map List.cons ((check j).within (.index i))) (go (i + 1) rest)
  go 0 items

/-- The value, or a report under the given title. -/
def toExcept (title : String) : Checked α → Except Report α
  | good a => .ok a
  | bad issues => .error ⟨title, issues⟩

@[simp] theorem map_good (f : α → β) (a : α) : map f (good a) = good (f a) := rfl

@[simp] theorem ap_good (f : α → β) (a : α) : ap (good f) (good a) = good (f a) := rfl

@[simp] theorem within_good (place : Place) (a : α) : within place (good a) = good a := rfl

theorem map_eq_good_iff {f : α → β} {c : Checked α} {b : β} :
    map f c = good b ↔ ∃ a, c = good a ∧ f a = b := by
  cases c <;> simp [map]

theorem ap_eq_good_iff {f : Checked (α → β)} {c : Checked α} {b : β} :
    ap f c = good b ↔ ∃ g a, f = good g ∧ c = good a ∧ g a = b := by
  cases f <;> cases c <;> simp [ap]

theorem within_eq_good_iff {place : Place} {c : Checked α} {a : α} :
    within place c = good a ↔ c = good a := by
  cases c <;> simp [within]

end Checked

end Nurture.Validation
