import Nurture.Json.Reader

/-!
  JSON in bytes

  JSON may come in UTF-8, or in units of sixteen or thirty-two bits. Since the
  first characters of a JSON text are ASCII, the zeros among the first bytes tell
  in which. A byte order mark in UTF-8 is passed over.
-/

namespace Nurture.Json

/-- How a text is held in bytes. -/
inductive Encoding where
  | utf8
  | units (size : Nat) (bigEndian : Bool)
  deriving DecidableEq, Repr

/-- How the bytes hold a JSON text. -/
def Encoding.ofBytes : List Nat → Encoding
  | [0, _] => .units 2 true
  | [_, 0] => .units 2 false
  | 0 :: b :: _ :: _ :: _ => if b = 0 then .units 4 true else .units 2 true
  | _ :: 0 :: c :: d :: _ => if c = 0 && d = 0 then .units 4 false else .units 2 false
  | _ => .utf8

/-- The text that bytes hold, if they hold one. -/
def textOfBytes? (bs : List Nat) : Option (List Char) :=
  match Encoding.ofBytes bs with
  | .utf8 =>
    match bs with
    | 0xef :: 0xbb :: 0xbf :: rest => some (Text.ofUtf8 none rest)
    | _ => some (Text.ofUtf8 none bs)
  | .units size bigEndian =>
    (Text.units? size bigEndian bs.length bs).bind fun units =>
      if size = 4 then Text.ofUnits32 units else some (Text.ofUnits16 units)

/-- How many levels of members are read in a body. -/
def bodyRoom : Nat := 960

/-- Reads the value in the bytes of a text. -/
def readBytes (s : String) : Except ReadFault Json :=
  match textOfBytes? (Text.toUtf8 s.toList) with
  | some cs => readWithin bodyRoom (String.ofList cs)
  | none => .error .excessive

end Nurture.Json
