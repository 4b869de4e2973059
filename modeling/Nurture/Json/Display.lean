import Nurture.Json.Value
import Nurture.Text.Quoted

/-!
  Displayed values

  How a dynamic value reads inside a message: a text as it is, every other value
  as it would be written in a list, where texts are quoted.
-/

namespace Nurture.Json

/-- Numbers are positional below 10^16 and down to 10^-4. -/
def numberStyle : DecimalStyle where
  positionalFrom := -4
  positionalBelow := 16
  wholeMantissaPoint := false
  keptDigits := none

/-- The text of a number of the double format. -/
def realText (x : Binary64) : String := numberStyle.text "nan" "inf" x

mutual

/-- The value as an item of a list. -/
def itemText : Json → String
  | null => "None"
  | bool true => "True"
  | bool false => "False"
  | int n => toString n
  | real x => realText x
  | str s => Text.quoted s
  | arr items => "[" ++ itemsText items ++ "]"
  | obj fields => "\x7b" ++ fieldsText fields ++ "\x7d"

def itemsText : List Json → String
  | [] => ""
  | [j] => itemText j
  | j :: k :: rest => itemText j ++ ", " ++ itemsText (k :: rest)

def fieldsText : List (String × Json) → String
  | [] => ""
  | [(key, j)] => Text.quoted key ++ ": " ++ itemText j
  | (key, j) :: g :: rest => Text.quoted key ++ ": " ++ itemText j ++ ", " ++ fieldsText (g :: rest)

end

/-- The value inside a message. -/
def displayText : Json → String
  | str s => s
  | j => itemText j

@[simp] theorem displayText_str (s : String) : displayText (str s) = s := rfl

end Nurture.Json
