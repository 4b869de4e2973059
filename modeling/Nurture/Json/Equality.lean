import Nurture.Json.Value

/-!
  Equality of values

  Two values are the same if they hold the same data: numbers are compared as
  numbers, with yes and no as one and zero, and the order of the fields of an
  object does not count. An undefined number is not the same as itself.
-/

namespace Nurture.Json

/-- The value with yes and no as one and zero. -/
def counted : Json → Json
  | bool b => int (if b then 1 else 0)
  | j => j

def sameNumber : Json → Json → Bool
  | int m, int n => m == n
  | int n, real x | real x, int n => x.toInt? == some n
  | real x, real y => x.same y
  | _, _ => false

/-- Whether two values without members are the same. -/
def sameScalar : Json → Json → Bool
  | null, null => true
  | str s, str t => s == t
  | a, b => sameNumber (counted a) (counted b)

mutual

/-- Whether two values are the same. -/
def same : Json → Json → Bool
  | arr items, arr others => sameItems items others
  | obj fields, obj others => fields.length == others.length && sameFields fields others
  | a, b => sameScalar a b

def sameItems : List Json → List Json → Bool
  | [], [] => true
  | a :: as, b :: bs => same a b && sameItems as bs
  | _, _ => false

def sameFields : List (String × Json) → Fields → Bool
  | [], _ => true
  | (key, a) :: rest, others =>
    (match Fields.get? others key with
      | some b => same a b
      | none => false) && sameFields rest others

end

end Nurture.Json
