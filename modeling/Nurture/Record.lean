import Nurture.Validation.Scalar

/-!
  Records and their identifiers

  A record that is kept gets an identifier when it is first kept, unless it
  brings one. Until then it is a draft.
-/

namespace Nurture

/-- A record that lacks an identifier, or the one it brings. -/
structure Draft (α : Type) where
  id : Option String
  withId : String → α

namespace Draft

/-- The identifier that a record shows which is not kept. -/
def unsettled : String := "<generated>"

/-- The record, with the given identifier if it brings none. -/
def settle {α : Type} (d : Draft α) (fresh : String) : α := d.withId (d.id.getD fresh)

/-- The identifier of a draft, which may be missing but not nothing. -/
def checkId (fs : Json.Fields) : Validation.Checked (Option String) :=
  Validation.defaulted fs "id" none fun j => (Validation.text j).map some

@[simp] theorem settle_none {α : Type} (f : String → α) (fresh : String) :
    (Draft.mk none f).settle fresh = f fresh := rfl

@[simp] theorem settle_some {α : Type} (f : String → α) (id fresh : String) :
    (Draft.mk (some id) f).settle fresh = f id := rfl

end Draft

end Nurture
