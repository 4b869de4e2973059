import Nurture.Journal
import Nurture.Naming
import Nurture.Store.Rows

/-!
  The world of the engine

  What the engine works on: the tables, the identifiers that are still to be given
  out, the messages that were attempted, the journal, and the state of the outside,
  of which the engine knows nothing.
-/

namespace Nurture

/-- A message to a lead. -/
inductive Message where
  | email (recipient subject body : String)
  | whatsApp (recipient template : String) (values : List String) (text : String)
  deriving DecidableEq, Repr

/-- An attempt to deliver a message, and whether it was refused. -/
structure Attempt where
  message : Message
  refused : Bool
  deriving DecidableEq, Repr

/-- Which identifiers there are, and how many of each kind have been given out. -/
structure Issued where
  naming : Naming := .counted
  funnels : Nat := 0
  executions : Nat := 0
  leads : Nat := 0
  templates : Nat := 0
  stock : Nat := 0

/-- What the engine works on; `σ` are the states of the outside. -/
structure World (σ : Type) where
  database : Database
  issued : Issued
  attempts : List Attempt
  journal : List Journal.Event
  outside : σ

/-- A world in which nothing has happened. Its identifiers are counted where nothing else is
said. -/
def World.fresh {σ : Type} (outside : σ) (naming : Naming := .counted) : World σ :=
  ⟨.empty, { naming := naming }, [], [], outside⟩

end Nurture
