import Nurture.Failure

/-!
  Replies

  A call of the store is answered by the store itself, or by the outside in its
  place. What the outside answers is data; it fails whoever asks it for more than
  data has: its members, or whether it is anything at all.
-/

namespace Nurture

/-- An answer of the store, or data in the place of one. -/
inductive Reply (α : Type) where
  | own (value : α)
  | foreign (data : Json)

namespace Reply

variable {α β : Type}

/-- The reply with a function applied to the store's answer. -/
def map (f : α → β) : Reply α → Reply β
  | own a => own (f a)
  | foreign j => foreign j

def toJson (f : α → Json) : Reply α → Json
  | own a => f a
  | foreign j => j

/-- The reply as data that leaves the library. -/
def dump (f : α → Except Failure Json) : Reply α → Except Failure Json
  | own a => f a
  | foreign j => .ok j

/-- The records of a list, each of which is asked for a part; members of data have
no such part. -/
def records (part : String) : Reply (List α) → Except Failure (List α)
  | own items => .ok items
  | foreign j =>
    match j.members? with
    | none => .error (.notIterable j.typeName)
    | some [] => .ok []
    | some (m :: _) => .error (.absent m.typeName part)

/-- The members of a list, one by one. -/
def members : Reply (List α) → Except Failure (List (Reply α))
  | own items => .ok (items.map own)
  | foreign j =>
    match j.members? with
    | none => .error (.notIterable j.typeName)
    | some items => .ok (items.map foreign)

/-- The record, which is asked for a part. -/
def record (part : String) : Reply α → Except Failure α
  | own a => .ok a
  | foreign j => .error (.absent j.typeName part)

/-- The record, if there is one, which is asked for a part. -/
def record? (part : String) : Reply (Option α) → Except Failure (Option α)
  | own a => .ok a
  | foreign .null => .ok none
  | foreign j => .error (.absent j.typeName part)

/-- A yes, or data that is something. -/
def isGiven : Reply Bool → Bool
  | own b => b
  | foreign j => j.isGiven

/-- A record that is there, or data that is something. -/
def given? : Reply (Option α) → Option (Reply α)
  | own a => a.map own
  | foreign j => if j.isGiven then some (foreign j) else none

/-- A record that may be missing, with data for one that is. -/
def orNull : Reply (Option α) → Reply α
  | own (some a) => own a
  | own none => foreign .null
  | foreign j => foreign j

@[simp] theorem records_own (part : String) (items : List α) :
    (own items).records part = .ok items := rfl

@[simp] theorem record_own (part : String) (a : α) : (own a).record part = .ok a := rfl

@[simp] theorem record?_own (part : String) (a : Option α) : (own a).record? part = .ok a := rfl

@[simp] theorem isGiven_own (b : Bool) : (own b).isGiven = b := rfl

@[simp] theorem given?_own (a : Option α) : (own a).given? = a.map own := rfl

end Reply

end Nurture
