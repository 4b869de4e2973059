import Nurture.Json.Value
import Nurture.Number.Numeral
import Nurture.Text.Percent

/-!
  Reading JSON

  A recursive descent over the characters, each step returning the rest of the
  text. A text that is not JSON is refused with the offset of the first
  character that does not fit. Besides the standard's numbers, `NaN` and
  `Infinity` are read. Integers of very many digits are refused, and so are
  values with more levels than a reading has room for.
-/

namespace Nurture.Json

/-- Why a text is not read. -/
inductive ReadFault where
  /-- The character at the offset does not fit. -/
  | malformed (offset : Nat)
  /-- The text asks for too much. -/
  | excessive
  deriving DecidableEq, Repr

namespace Reader

open Text (hexValue?)

/-- What a step leaves: a result, the rest of the text, and its offset. -/
abbrev Step (α : Type) := Except ReadFault (α × List Char × Nat)

/-- Passes over white space. -/
def skip : List Char → Nat → List Char × Nat
  | c :: cs, pos =>
    if c = ' ' || c = '\t' || c = '\n' || c = '\r' then skip cs (pos + 1) else (c :: cs, pos)
  | [], pos => ([], pos)

/-- Four hexadecimal digits and what follows; something must follow. -/
def hexFour : List Char → Option (Nat × List Char)
  | a :: b :: c :: d :: e :: rest => do
    let n := 4096 * (← hexValue? a) + 256 * (← hexValue? b) + 16 * (← hexValue? c) + (← hexValue? d)
    return (n, e :: rest)
  | _ => none

/-- Whether the code unit opens a surrogate pair. -/
def isHighSurrogate (n : Nat) : Bool := 0xd800 ≤ n && n ≤ 0xdbff

/-- Whether the code unit closes a surrogate pair. -/
def isLowSurrogate (n : Nat) : Bool := 0xdc00 ≤ n && n ≤ 0xdfff

/-- The character that a one-letter escape stands for. -/
def shortEscape? : Char → Option Char
  | '"' => some '"'
  | '\\' => some '\\'
  | '/' => some '/'
  | 'b' => some (Char.ofNat 8)
  | 'f' => some (Char.ofNat 12)
  | 'n' => some '\n'
  | 'r' => some '\r'
  | 't' => some '\t'
  | _ => none

/-- The rest of a string behind its opening quote at offset `start`, what has
been read of it in reverse. -/
def stringRest (start : Nat) : Nat → List Char → List Char → Nat → Step String
  | 0, _, _, _ => .error (.malformed start)
  | _ + 1, _, [], _ => .error (.malformed start)
  | fuel + 1, read, c :: cs, pos =>
    if c = '"' then .ok (String.ofList read.reverse, cs, pos + 1)
    else if c.toNat < 0x20 then .error (.malformed pos)
    else if c = '\\' then
      match cs with
      | [] => .error (.malformed start)
      | 'u' :: cs =>
        match hexFour cs with
        | none => .error (.malformed (pos + 1))
        | some (n, rest) =>
          match rest with
          | '\\' :: 'u' :: more =>
            if isHighSurrogate n && 4 < more.length then
              match hexFour more with
              | none => .error (.malformed (pos + 7))
              | some (m, last) =>
                if isLowSurrogate m then
                  let joined := Char.ofNat (0x10000 + (n - 0xd800) * 1024 + (m - 0xdc00))
                  stringRest start fuel (joined :: read) last (pos + 12)
                else stringRest start fuel (Text.ofUnit n :: read) rest (pos + 6)
            else stringRest start fuel (Text.ofUnit n :: read) rest (pos + 6)
          | _ => stringRest start fuel (Text.ofUnit n :: read) rest (pos + 6)
      | e :: cs =>
        match shortEscape? e with
        | some x => stringRest start fuel (x :: read) cs (pos + 2)
        | none => .error (.malformed pos)
    else stringRest start fuel (c :: read) cs (pos + 1)

/-- The digits at the head of a text, and the rest. -/
def digits (cs : List Char) : List Char × List Char :=
  (cs.takeWhile Char.isDigit, cs.dropWhile Char.isDigit)

/-- The fraction behind the integral part, if there is one. -/
def fraction (cs : List Char) : List Char × List Char :=
  match cs with
  | '.' :: rest =>
    match digits rest with
    | ([], _) => ([], cs)
    | (ds, more) => (ds, more)
  | _ => ([], cs)

/-- The exponent behind a number, if there is one. -/
def exponent (cs : List Char) : Option Int × List Char :=
  match cs with
  | e :: rest =>
    if e = 'e' || e = 'E' then
      let (negative, more) := Numeral.splitSign rest
      match digits more with
      | ([], _) => (none, cs)
      | (ds, last) =>
        (some (Numeral.signed negative (Numeral.ofDigits (ds.map (·.toNat - 48)))), last)
    else (none, cs)
  | [] => (none, cs)

/-- The number at the head of a text, and the rest. -/
def number? (cs : List Char) : Option (Json × List Char) :=
  let (negative, cs) :=
    match cs with
    | '-' :: rest => (true, rest)
    | _ => (false, cs)
  let (whole, rest) :=
    match cs with
    | '0' :: rest => (['0'], rest)
    | _ => digits cs
  if whole.isEmpty then none
  else
    let (part, rest) := fraction rest
    let (e, rest) := exponent rest
    let value (ds : List Char) : Nat := Numeral.ofDigits (ds.map (·.toNat - 48))
    if part.isEmpty && e.isNone then some (int (Numeral.signed negative (value whole)), rest)
    else
      let x := Binary64.ofDecimal negative (value (whole ++ part)) (e.getD 0 - part.length)
      some (real x, rest)

/-- The words that stand for values. -/
def words : List (List Char × Json) :=
  [("null".toList, null), ("true".toList, bool true), ("false".toList, bool false),
   ("NaN".toList, real .nan), ("Infinity".toList, real (.infinity false)),
   ("-Infinity".toList, real (.infinity true))]

/-- The word at the head of a text, and the rest. -/
def word? (cs : List Char) : Option (Json × List Char) :=
  words.findSome? fun (w, j) => if w.isPrefixOf cs then some (j, cs.drop w.length) else none

mutual

/-- The value at the head of a text, with room for so many levels of members. -/
def value : Nat → Nat → List Char → Nat → Step Json
  | 0, _, _, pos => .error (.malformed pos)
  | fuel + 1, room, cs, pos =>
    match cs with
    | '"' :: rest =>
      (stringRest pos (rest.length + 1) [] rest (pos + 1)).map fun (s, cs, pos) => (str s, cs, pos)
    | '[' :: rest =>
      let (rest, at0) := skip rest (pos + 1)
      match room, rest with
      | 0, _ => .error .excessive
      | _ + 1, ']' :: more => .ok (arr [], more, at0 + 1)
      | room + 1, _ => itemsRest fuel room [] rest at0
    | '\x7b' :: rest =>
      let (rest, at0) := skip rest (pos + 1)
      match room, rest with
      | 0, _ => .error .excessive
      | _ + 1, '\x7d' :: more => .ok (obj [], more, at0 + 1)
      | room + 1, _ => fieldsRest fuel room [] rest at0
    | _ =>
      match (word? cs).orElse fun _ => number? cs with
      | some (.int n, rest) =>
        let length := cs.length - rest.length
        if Numeral.maxDigits < length - (if cs.head? = some '-' then 1 else 0) then
          .error .excessive
        else .ok (int n, rest, pos + length)
      | some (j, rest) => .ok (j, rest, pos + (cs.length - rest.length))
      | none => .error (.malformed pos)

/-- The rest of a list from an item on, the items before it in reverse. -/
def itemsRest : Nat → Nat → List Json → List Char → Nat → Step Json
  | 0, _, _, _, pos => .error (.malformed pos)
  | fuel + 1, room, items, cs, pos =>
    match value fuel room cs pos with
    | .error e => .error e
    | .ok (j, cs, pos) =>
      let (cs, pos) := skip cs pos
      match cs with
      | ']' :: rest => .ok (arr (j :: items).reverse, rest, pos + 1)
      | ',' :: rest =>
        let (rest, pos) := skip rest (pos + 1)
        itemsRest fuel room (j :: items) rest pos
      | _ => .error (.malformed pos)

/-- The rest of an object from a key on. -/
def fieldsRest : Nat → Nat → Fields → List Char → Nat → Step Json
  | 0, _, _, _, pos => .error (.malformed pos)
  | fuel + 1, room, fields, cs, pos =>
    match cs with
    | '"' :: rest =>
      match stringRest pos (rest.length + 1) [] rest (pos + 1) with
      | .error e => .error e
      | .ok (key, cs, pos) =>
        let (cs, pos) := skip cs pos
        match cs with
        | ':' :: rest =>
          let (rest, pos) := skip rest (pos + 1)
          match value fuel room rest pos with
          | .error e => .error e
          | .ok (j, cs, pos) =>
            let fields := Fields.set fields key j
            let (cs, pos) := skip cs pos
            match cs with
            | '\x7d' :: rest => .ok (obj fields, rest, pos + 1)
            | ',' :: rest =>
              let (rest, pos) := skip rest (pos + 1)
              fieldsRest fuel room fields rest pos
            | _ => .error (.malformed pos)
        | _ => .error (.malformed pos)
    | _ => .error (.malformed pos)

end

end Reader

/-- Reads a text that holds one value and nothing else, with room for so many
levels of members. -/
def readWithin (room : Nat) (s : String) : Except ReadFault Json :=
  let cs := s.toList
  let (cs, pos) := Reader.skip cs 0
  match Reader.value (2 * cs.length + 1) room cs pos with
  | .error e => .error e
  | .ok (j, rest, pos) =>
    let (rest, pos) := Reader.skip rest pos
    if rest.isEmpty then .ok j else .error (.malformed pos)

/-- Reads a text that holds one value and nothing else. -/
def read (s : String) : Except ReadFault Json := readWithin s.length s

end Nurture.Json
