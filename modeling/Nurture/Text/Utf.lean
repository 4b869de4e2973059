import Nurture.Text.Half

/-!
  Texts as bytes

  Three readings of bytes as a text. In UTF-8 every run of bytes that begins no
  character is read as the replacement character. In units of sixteen or of
  thirty-two bits a half of a surrogate pair is let through, but bytes that are
  left over, or a unit that is no character, are refused.
-/

namespace Nurture.Text

/-- The character in the place of bytes that are no character. -/
def replacement : Char := Char.ofNat 0xfffd

/-- A character of which some bytes are missing: how many, between which bounds the
next one lies, and the bits of those that were read. -/
structure Begun where
  missing : Nat
  low : Nat
  high : Nat
  bits : Nat
  deriving DecidableEq, Repr

/-- The character that a byte begins. -/
def Begun.begin? (b : Nat) : Option Begun :=
  if b < 0xc2 then none
  else if b < 0xe0 then some ⟨1, 0x80, 0xbf, b - 0xc0⟩
  else if b < 0xf0 then
    some ⟨2, if b = 0xe0 then 0xa0 else 0x80, if b = 0xed then 0x9f else 0xbf, b - 0xe0⟩
  else if b < 0xf5 then
    some ⟨3, if b = 0xf0 then 0x90 else 0x80, if b = 0xf4 then 0x8f else 0xbf, b - 0xf0⟩
  else none

/-- The characters of bytes in UTF-8 behind a character that has been begun. -/
def ofUtf8 : Option Begun → List Nat → List Char
  | none, [] => []
  | some _, [] => [replacement]
  | none, b :: bs =>
    if b < 0x80 then Char.ofNat b :: ofUtf8 none bs
    else
      match Begun.begin? b with
      | some p => ofUtf8 (some p) bs
      | none => replacement :: ofUtf8 none bs
  | some p, b :: bs =>
    if p.low ≤ b && b ≤ p.high then
      let bits := 64 * p.bits + (b - 0x80)
      if p.missing ≤ 1 then Char.ofNat bits :: ofUtf8 none bs
      else ofUtf8 (some ⟨p.missing - 1, 0x80, 0xbf, bits⟩) bs
    else replacement :: ofUtf8 none (b :: bs)
termination_by p bs => 2 * bs.length + if p.isSome then 1 else 0
decreasing_by
  all_goals simp
  all_goals omega

/-- The bytes of a text in UTF-8. -/
def toUtf8 (cs : List Char) : List Nat :=
  (String.ofList cs).toUTF8.toList.map (·.toNat)

/-- The units of `size` bytes, if no bytes are left over. -/
def units? (size : Nat) (bigEndian : Bool) : Nat → List Nat → Option (List Nat)
  | _, [] => some []
  | 0, _ :: _ => none
  | fuel + 1, bs =>
    if bs.length < size then none
    else
      let bytes := if bigEndian then bs.take size else (bs.take size).reverse
      (units? size bigEndian fuel (bs.drop size)).map
        (bytes.foldl (fun n b => 256 * n + b) 0 :: ·)

/-- The character of a unit, which may be a half. -/
def ofUnit (n : Nat) : Char := if isHalf n then ofHalf n else Char.ofNat n

/-- The characters of units of sixteen bits. -/
def ofUnits16 : List Nat → List Char
  | [] => []
  | [n] => [ofUnit n]
  | n :: m :: rest =>
    if 0xd800 ≤ n && n < 0xdc00 && 0xdc00 ≤ m && m < 0xe000 then
      Char.ofNat (0x10000 + (n - 0xd800) * 1024 + (m - 0xdc00)) :: ofUnits16 rest
    else ofUnit n :: ofUnits16 (m :: rest)

/-- The characters of units of thirty-two bits, if all are characters or halves. -/
def ofUnits32 (units : List Nat) : Option (List Char) :=
  if units.all (· < 0x110000) then some (units.map ofUnit) else none

end Nurture.Text
