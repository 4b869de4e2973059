import Nurture.Number.Shortest

/-!
  Dynamic values

  Data from outside, the free fields of a node and the recorded history of an
  execution are JSON values. The fields of an object keep the order in which
  they were first given.
-/

namespace Nurture

/-- A JSON value; integers are unbounded and reals are of the double format. -/
inductive Json where
  | null
  | bool (b : Bool)
  | int (n : Int)
  | real (x : Binary64)
  | str (s : String)
  | arr (items : List Json)
  | obj (fields : List (String × Json))
  deriving Repr, Inhabited

namespace Json

/-- The fields of an object. -/
abbrev Fields := List (String × Json)

/-- The value of a key, if it is among the fields. -/
def Fields.get? (fields : Fields) (key : String) : Option Json :=
  (fields.find? fun f => f.1 == key).map (·.2)

/-- Gives a key a value: in its place if it is there, else at the end. -/
def Fields.set : Fields → String → Json → Fields
  | [], key, v => [(key, v)]
  | f :: rest, key, v => if f.1 == key then (key, v) :: rest else f :: Fields.set rest key v

/-- The fields, a later value of a key replacing an earlier one in its place. -/
def Fields.ofPairs (pairs : List (String × Json)) : Fields :=
  pairs.foldl (fun fields p => fields.set p.1 p.2) []

/-- The value of a key of an object. -/
def get? (j : Json) (key : String) : Option Json :=
  match j with
  | obj fields => Fields.get? fields key
  | _ => none

/-- A text, or nothing. -/
def ofOption : Option String → Json
  | some s => str s
  | none => null

/-- The list of texts as a value. -/
def ofTexts (texts : List String) : Json := arr (texts.map str)

/-- Whether the value counts as given: neither nothing, false, zero nor empty. -/
def isGiven : Json → Bool
  | null => false
  | bool b => b
  | int n => n != 0
  | real x => !x.isZero
  | str s => !s.isEmpty
  | arr items => !items.isEmpty
  | obj fields => !fields.isEmpty

/-- The name of the value's type in messages. -/
def typeName : Json → String
  | null => "NoneType"
  | bool _ => "bool"
  | int _ => "int"
  | real _ => "float"
  | str _ => "str"
  | arr _ => "list"
  | obj _ => "dict"

/-- The members that going through the value meets: the items of a list, the
keys of an object, the characters of a text. -/
def members? : Json → Option (List Json)
  | arr items => some items
  | obj fields => some (fields.map fun f => str f.1)
  | str s => some (s.toList.map fun c => str (String.singleton c))
  | _ => none

@[simp] theorem Fields.get?_nil (key : String) : Fields.get? [] key = none := rfl

theorem Fields.get?_cons (f : String × Json) (fields : Fields) (key : String) :
    Fields.get? (f :: fields) key = if f.1 = key then some f.2 else Fields.get? fields key := by
  by_cases h : f.1 = key <;> simp [Fields.get?, h]

end Json

end Nurture
