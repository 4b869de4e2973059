import Nurture.Json.Display

/-!
  Printing JSON

  The value on one line. In ASCII, other characters are escaped as UTF-16 code units.
-/

namespace Nurture.Json

/-- The escape of one UTF-16 code unit. -/
def escapedUnit (n : Nat) : List Char := '\\' :: 'u' :: Text.hexDigits 4 n

/-- A character inside a JSON string. -/
def escapedChar (c : Char) : List Char :=
  if c = '"' || c = '\\' then ['\\', c]
  else if c = '\n' then ['\\', 'n']
  else if c = '\r' then ['\\', 'r']
  else if c = '\t' then ['\\', 't']
  else if c.toNat = 0x08 then ['\\', 'b']
  else if c.toNat = 0x0c then ['\\', 'f']
  else if 0x20 ≤ c.toNat && c.toNat < 0x7f then [c]
  else if c.toNat < 0x10000 then escapedUnit c.toNat
  else
    match Text.half? c with
    | some unit => escapedUnit unit
    | none =>
      let n := c.toNat - 0x10000
      escapedUnit (0xd800 + n / 1024) ++ escapedUnit (0xdc00 + n % 1024)

/-- A character inside a JSON string that need not be ASCII. -/
def plainChar (c : Char) : List Char :=
  if c.toNat < 0x7f then escapedChar c else [c]

/-- A text as a JSON string, its characters written in a given way. -/
def stringText (written : Char → List Char) (s : String) : String :=
  String.ofList ('"' :: s.toList.flatMap written ++ ['"'])

mutual

/-- The value as JSON, the characters of its texts written in a given way. -/
def renderWith (written : Char → List Char) : Json → String
  | null => "null"
  | bool true => "true"
  | bool false => "false"
  | int n => toString n
  | real x => numberStyle.text "NaN" "Infinity" x
  | str s => stringText written s
  | arr items => "[" ++ renderItems written items ++ "]"
  | obj fields => "\x7b" ++ renderFields written fields ++ "\x7d"

def renderItems (written : Char → List Char) : List Json → String
  | [] => ""
  | [j] => renderWith written j
  | j :: k :: rest => renderWith written j ++ "," ++ renderItems written (k :: rest)

def renderFields (written : Char → List Char) : List (String × Json) → String
  | [] => ""
  | [(key, j)] => stringText written key ++ ":" ++ renderWith written j
  | (key, j) :: g :: rest =>
    stringText written key ++ ":" ++ renderWith written j ++ "," ++ renderFields written (g :: rest)

end

/-- The value as JSON in ASCII. -/
def render (j : Json) : String := renderWith escapedChar j

/-- The value as JSON, in which only characters are escaped that must be. -/
def renderPlain (j : Json) : String := renderWith plainChar j

end Nurture.Json
