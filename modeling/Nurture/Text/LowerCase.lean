import Nurture.Text.CaseTables

/-!
  Lower case

  Each character is mapped on its own, with two exceptions: the dotted capital
  I becomes two characters, and a capital sigma takes its final form at the end
  of a word, that is, after a cased letter and not before one, characters that
  case rules pass over aside.
-/

namespace Nurture.Text

def isCased (c : Char) : Bool := casedRanges.covers c.toNat

/-- Whether case rules pass over the character. -/
def isCaseIgnorable (c : Char) : Bool := caseIgnorableRanges.covers c.toNat

/-- The lower-case form of one character, apart from its surroundings. -/
def lowerChar (c : Char) : List Char :=
  let n := c.toNat
  if n < 0x80 then [c.toLower]
  else if n = 0x130 then ['i', Char.ofNat 0x307]
  else
    match lowerRuns.find? fun run => run.covers n with
    | some run => [Char.ofNat ((n : Int) + run.shift).toNat]
    | none => [c]

/-- Whether the nearest character that case rules do not pass over is cased. -/
def nearestIsCased : List Char → Bool
  | [] => false
  | c :: rest => if isCaseIgnorable c then nearestIsCased rest else isCased c

/-- The form of a capital sigma between the characters before it, nearest
first, and those after it. -/
def lowerSigma (before after : List Char) : Char :=
  if nearestIsCased before && !nearestIsCased after then Char.ofNat 0x3c2 else Char.ofNat 0x3c3

/-- Lower-cases the rest of a text, given what came before it, nearest first. -/
def lowerAfter : List Char → List Char → List Char
  | _, [] => []
  | before, c :: rest =>
    (if c.toNat = 0x3a3 then [lowerSigma before rest] else lowerChar c)
      ++ lowerAfter (c :: before) rest

def lower (s : String) : String := String.ofList (lowerAfter [] s.toList)

@[simp] theorem lowerAfter_nil (before : List Char) : lowerAfter before [] = [] := rfl

end Nurture.Text
