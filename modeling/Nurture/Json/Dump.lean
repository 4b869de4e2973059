import Nurture.Json.Value
import Nurture.Text.Half

/-!
  Dumped data

  Free data that leaves the library as part of a record is dumped: a number
  without digits becomes nothing, and data that is nested too deeply is refused.
  Whether data has such numbers, or texts with halves of pairs, can be asked.
-/

namespace Nurture.Json

mutual

/-- The value without numbers that have no digits. -/
def dumped : Json → Json
  | real x => if x.isFinite then real x else null
  | arr items => arr (dumpedItems items)
  | obj fields => obj (dumpedFields fields)
  | null => null
  | bool b => bool b
  | int n => int n
  | str s => str s

def dumpedItems : List Json → List Json
  | [] => []
  | j :: rest => dumped j :: dumpedItems rest

def dumpedFields : List (String × Json) → List (String × Json)
  | [] => []
  | (key, j) :: rest => (key, dumped j) :: dumpedFields rest

end

mutual

/-- Whether all numbers have digits. -/
def isFinite : Json → Bool
  | real x => x.isFinite
  | arr items => areItemsFinite items
  | obj fields => areFieldsFinite fields
  | null | bool _ | int _ | str _ => true

def areItemsFinite : List Json → Bool
  | [] => true
  | j :: rest => isFinite j && areItemsFinite rest

def areFieldsFinite : List (String × Json) → Bool
  | [] => true
  | (_, j) :: rest => isFinite j && areFieldsFinite rest

end

mutual

/-- Whether no text holds half of a pair. -/
def isWhole : Json → Bool
  | str s => Text.isWhole s
  | arr items => areItemsWhole items
  | obj fields => areFieldsWhole fields
  | null | bool _ | int _ | real _ => true

def areItemsWhole : List Json → Bool
  | [] => true
  | j :: rest => isWhole j && areItemsWhole rest

def areFieldsWhole : List (String × Json) → Bool
  | [] => true
  | (key, j) :: rest => Text.isWhole key && isWhole j && areFieldsWhole rest

end

mutual

/-- How many levels the value has: one more than its deepest member. -/
def levels : Json → Nat
  | arr items => levelsOfItems items + 1
  | obj fields => levelsOfFields fields + 1
  | null | bool _ | int _ | real _ | str _ => 1

def levelsOfItems : List Json → Nat
  | [] => 0
  | j :: rest => max (levels j) (levelsOfItems rest)

def levelsOfFields : List (String × Json) → Nat
  | [] => 0
  | (_, j) :: rest => max (levels j) (levelsOfFields rest)

end

/-- The number of levels that is too much for data in a record. -/
def tooManyLevels : Nat := 255

/-- Whether the value can be dumped. -/
def isDumpable (j : Json) : Bool := levels j < tooManyLevels

/-- Whether all fields can be dumped. -/
def Fields.areDumpable (fields : Fields) : Bool := fields.all fun f => f.2.isDumpable

end Nurture.Json
