import Nurture.Text.Utf

/-!
  Base 64

  Three bytes are written as four letters of six bits each, the last ones filled up
  with equals signs. Reading passes over characters that are no letters, and stops at
  a sign that fills up a group.
-/

namespace Nurture.Text

/-- The letter of six bits. -/
def base64Letter (n : Nat) : Char :=
  if n < 26 then Char.ofNat (n + 65)
  else if n < 52 then Char.ofNat (n + 71)
  else if n < 62 then Char.ofNat (n - 4)
  else if n = 62 then '+'
  else '/'

/-- The six bits of a letter. -/
def base64Value? (c : Char) : Option Nat :=
  if c.isUpper then some (c.toNat - 65)
  else if c.isLower then some (c.toNat - 71)
  else if c.isDigit then some (c.toNat + 4)
  else if c = '+' then some 62
  else if c = '/' then some 63
  else none

/-- The bytes in base 64. -/
def toBase64 : List Nat → List Char
  | a :: b :: c :: rest =>
    base64Letter (a / 4) :: base64Letter (a % 4 * 16 + b / 16)
      :: base64Letter (b % 16 * 4 + c / 64) :: base64Letter (c % 64) :: toBase64 rest
  | [a, b] =>
    [base64Letter (a / 4), base64Letter (a % 4 * 16 + b / 16), base64Letter (b % 16 * 4), '=']
  | [a] => [base64Letter (a / 4), base64Letter (a % 4 * 16), '=', '=']
  | [] => []

/-- The bytes of letters behind those of a group that has been begun: how many of its
letters and signs were read, and the bits that are left over. -/
def base64Bytes (letters signs bits : Nat) : List Char → Option (List Nat)
  | [] => if letters = 0 then some [] else none
  | c :: cs =>
    if c = '=' then
      if 2 ≤ letters && 3 ≤ letters + signs then some []
      else base64Bytes letters (if 2 ≤ letters then signs + 1 else signs) bits cs
    else
      match base64Value? c with
      | none => base64Bytes letters signs bits cs
      | some n =>
        match letters with
        | 0 => base64Bytes 1 0 n cs
        | 1 => (base64Bytes 2 0 (n % 16) cs).map ((bits * 4 + n / 16) :: ·)
        | 2 => (base64Bytes 3 0 (n % 4) cs).map ((bits * 16 + n / 4) :: ·)
        | _ => (base64Bytes 0 0 0 cs).map ((bits * 64 + n) :: ·)

/-- The bytes that are written in base 64; signs at the end may be missing. Letters
that make no bytes stand for themselves. -/
def ofBase64 (cs : List Char) : List Nat :=
  ((base64Bytes 0 0 0 cs).orElse fun _ => base64Bytes 0 0 0 (cs ++ ['=', '='])).getD
    (cs.map Char.toNat)

end Nurture.Text
