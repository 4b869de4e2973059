import Nurture.Text.Ranges

/-!
  Blanks

  Two classes of white space are in use. `isBlank` is the Unicode property
  White_Space: numerals may be surrounded by it. `isSpacing` adds the four
  information separators U+001C to U+001F: they too are stripped from the ends
  of an email address.
-/

namespace Nurture.Text

/-- The property White_Space. -/
def blankRanges : Ranges :=
  [(0x9, 0xd), (0x20, 0x20), (0x85, 0x85), (0xa0, 0xa0), (0x1680, 0x1680), (0x2000, 0x200a),
   (0x2028, 0x2029), (0x202f, 0x202f), (0x205f, 0x205f), (0x3000, 0x3000)]

/-- Whether the character is white space. -/
def isBlank (c : Char) : Bool := blankRanges.covers c.toNat

/-- Whether the character is white space or an information separator. -/
def isSpacing (c : Char) : Bool := isBlank c || (0x1c ≤ c.toNat && c.toNat ≤ 0x1f)

/-- The characters without those of the class at either end. -/
def trimBy (p : Char → Bool) (cs : List Char) : List Char :=
  ((cs.dropWhile p).reverse.dropWhile p).reverse

/-- The text without white space and separators at either end. -/
def strip (s : String) : String := String.ofList (trimBy isSpacing s.toList)

@[simp] theorem trimBy_nil (p : Char → Bool) : trimBy p [] = [] := rfl

/-- What stands between characters that are not of the class is kept, and what follows them goes if
it is of the class. -/
theorem trimBy_of_trailing {p : Char → Bool} {a b : Char} (cs : List Char) {rest : List Char}
    (ha : p a = false) (hb : p b = false) (hrest : ∀ c ∈ rest, p c = true) :
    trimBy p (a :: (cs ++ b :: rest)) = a :: (cs ++ [b]) := by
  have hreverse :
      (a :: (cs ++ b :: rest)).reverse = rest.reverse ++ (b :: (cs.reverse ++ [a])) := by
    simp
  have hrest' : ∀ c ∈ rest.reverse, p c = true := by simpa using hrest
  rw [trimBy, List.dropWhile_cons_of_neg (by simp [ha]), hreverse,
    List.dropWhile_append_of_pos hrest', List.dropWhile_cons_of_neg (by simp [hb])]
  simp

end Nurture.Text
