/-!
  Halves of surrogate pairs

  A text in JSON may spell out half of a surrogate pair, which is no character.
  The halves U+D800 to U+DFFF are kept as the code points U+CF800 to U+CFFFF, which
  have no characters, so that texts with halves can be searched, cut and put together
  like others. They cannot be encoded: `encodingFault?` finds the first halves of a
  text.

  These 2048 code points stand for nothing else here. A text that holds one of them for
  its own sake, which could be encoded, is outside of what the library describes: it is
  taken for a text with a half, and so it is not whole (`isWhole`).
-/

namespace Nurture.Text

/-- The least code unit that is half of a pair. -/
def firstHalf : Nat := 0xd800

/-- The least code point that stands for a half. It and the ones up to U+CFFFF are unassigned. -/
def firstStandIn : Nat := 0xcf800

/-- How many halves there are. -/
def halfCount : Nat := 2048

/-- Whether the code unit is half of a pair. -/
def isHalf (unit : Nat) : Bool := firstHalf ≤ unit && unit < firstHalf + halfCount

/-- The character that stands for a half. -/
def ofHalf (unit : Nat) : Char := Char.ofNat (unit - firstHalf + firstStandIn)

/-- The half that a character stands for. -/
def half? (c : Char) : Option Nat :=
  if firstStandIn ≤ c.toNat && c.toNat < firstStandIn + halfCount then
    some (c.toNat - firstStandIn + firstHalf)
  else none

/-- Whether the text holds no half, nor a code point that stands for one. -/
def isWhole (s : String) : Bool := s.toList.all fun c => (half? c).isNone

/-- The first characters of a text that cannot be encoded and follow each other: the
code of the first of them, and the places from which and up to which they stand. -/
structure EncodingFault where
  code : Nat
  start : Nat
  stop : Nat
  deriving DecidableEq, Repr

/-- The first faults among characters, `start` of which come before; `fault?` gives
the code of a character that is one. -/
def findFaults (fault? : Char → Option Nat) (start : Nat) : List Char → Option EncodingFault
  | [] => none
  | c :: cs =>
    match fault? c with
    | some code =>
      some ⟨code, start, start + 1 + (cs.takeWhile fun d => (fault? d).isSome).length⟩
    | none => findFaults fault? (start + 1) cs

/-- What keeps a text from being encoded. -/
def encodingFault? (s : String) : Option EncodingFault := findFaults half? 0 s.toList

/-- The code of a character that is not ASCII. -/
def beyondAscii? (c : Char) : Option Nat :=
  if c.toNat < 128 then none else some ((half? c).getD c.toNat)

/-- What keeps a text from being encoded in ASCII. -/
def asciiFault? (s : String) : Option EncodingFault := findFaults beyondAscii? 0 s.toList

theorem findFaults_eq_none_iff {fault? : Char → Option Nat} {start : Nat} {cs : List Char} :
    findFaults fault? start cs = none ↔ cs.all (fun c => (fault? c).isNone) = true := by
  induction cs generalizing start with
  | nil => simp [findFaults]
  | cons c cs ih =>
    cases h : fault? c with
    | none => simp [findFaults, h, ih]
    | some code => simp [findFaults, h]

theorem encodingFault?_eq_none_iff {s : String} : encodingFault? s = none ↔ isWhole s = true :=
  findFaults_eq_none_iff

end Nurture.Text
