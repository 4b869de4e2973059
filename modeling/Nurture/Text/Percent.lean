import Nurture.Text.Utf

/-!
  Percent escapes

  In a path, a percent sign and two hexadecimal digits stand for a byte, and the
  bytes for characters in UTF-8. Percent signs without digits stand for themselves.
-/

namespace Nurture.Text

/-- The value of a hexadecimal digit. -/
def hexValue? (c : Char) : Option Nat :=
  if c.isDigit then some (c.toNat - 48)
  else if 'a' ≤ c && c ≤ 'f' then some (c.toNat - 87)
  else if 'A' ≤ c && c ≤ 'F' then some (c.toNat - 55)
  else none

/-- The bytes that a text with escapes stands for. -/
def unescapedBytes : List Char → List Nat
  | '%' :: a :: b :: rest =>
    match hexValue? a, hexValue? b with
    | some m, some n => (16 * m + n) :: unescapedBytes rest
    | _, _ => '%'.toNat :: unescapedBytes (a :: b :: rest)
  | c :: rest => toUtf8 [c] ++ unescapedBytes rest
  | [] => []

/-- The text with its escapes resolved. -/
def unescaped (s : String) : String := String.ofList (ofUtf8 none (unescapedBytes s.toList))

end Nurture.Text
