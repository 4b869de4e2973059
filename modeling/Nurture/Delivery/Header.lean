import Nurture.Delivery.EncodedWord
import Nurture.Failure

/-!
  Headers

  A header of a mail is written line by line: a text of ASCII as it is, any other text
  with an encoded word for every line. A line behind the first one must begin with a
  blank, and none may look like the beginning of another header. Whoever receives the
  mail puts the lines together again and decodes the words.
-/

namespace Nurture.Delivery.Header

/-- Whether a line ends with the character. -/
def isLineEnd (c : Char) : Bool :=
  [0xa, 0xb, 0xc, 0xd, 0x1c, 0x1d, 0x1e, 0x85, 0x2028, 0x2029].contains c.toNat

/-- The lines of a text, without what ends them. -/
def lines : List Char → List (List Char)
  | [] => []
  | '\r' :: '\n' :: cs => [] :: lines cs
  | c :: cs =>
    if isLineEnd c then [] :: lines cs
    else
      match lines cs with
      | [] => [[c]]
      | line :: rest => (c :: line) :: rest

/-- A line without the blank at its end, unless others come before it. -/
def withoutLastBlank (line : List Char) : List Char :=
  match line.reverse with
  | [' '] => []
  | ' ' :: c :: rest => if EncodedWord.isGap c then line else (c :: rest).reverse
  | _ => line

/-- The lines with one more: an empty one is left out, one of blanks only is put
behind the last one. -/
def addLine (kept : List (List Char)) (line : List Char) : List (List Char) :=
  if line.isEmpty then kept
  else if line.all Text.isSpacing then
    kept.dropLast ++ [(kept.getLast?.getD []) ++ line]
  else kept ++ [line]

/-- The lines of a text of ASCII as they are written. -/
def plainLines : List (List Char) → List (List Char)
  | [] => [[]]
  | [line] => [line]
  | line :: rest => (rest.map withoutLastBlank).foldl addLine [withoutLastBlank line]

/-- The lines of any other text as they are written. -/
def encodedLines : List (List Char) → List (List Char)
  | [] => [[]]
  | line :: rest =>
    (if line.isEmpty then [] else EncodedWord.write line)
      :: rest.map fun l => ' ' :: EncodedWord.write (' ' :: l.dropWhile Text.isSpacing)

/-- The lines of a text as they are written. -/
def writtenLines (cs : List Char) : List (List Char) :=
  if cs.all fun c => c.toNat < 128 then plainLines (lines cs) else encodedLines (lines cs)

/-- Whether a text looks like the name of a header and what parts it from its value. -/
def beginsHeader (cs : List Char) : Bool :=
  ((cs.takeWhile fun c => !EncodedWord.isGap c).drop 1).contains ':'

/-- Whether lines, put together, look like headers from the second one on. -/
def looksLikeHeaders : List (List Char) → Bool
  | [] => false
  | line :: rest =>
    beginsHeader (['\n'].intercalate (line :: rest)) || looksLikeHeaders rest

/-- Why lines cannot be written as the header of the name. -/
def fault? (name : String) (written : List (List Char)) : Option HeaderFault :=
  let value := ['\n'].intercalate written
  if looksLikeHeaders (written.drop 1) then some (.embedded (String.ofList value))
  else if (written.drop 1).any fun l => !(l.head?.map EncodedWord.isGap).getD true then
    some (.broken (name ++ ": " ++ String.ofList value ++ "\n"))
  else none

/-- The lines of a header put together again. -/
def received (written : List (List Char)) : List Char :=
  match written with
  | [] => []
  | line :: rest => line.dropWhile EncodedWord.isGap ++ rest.flatten

/-- The value of the header of a name as it is received: a missing one is empty, and
nothing else but a text can be written. -/
def transfer (name : String) : Json → Except Failure (List Char)
  | .null => .ok []
  | .str s =>
    match Text.encodingFault? s, Text.asciiFault? s with
    | some _, some fault => .error (.notAscii fault)
    | _, _ =>
      let written := writtenLines s.toList
      match fault? name written with
      | some fault => .error (.header fault)
      | none => .ok (received written)
  | j => .error (.absent j.typeName "encode")

/-! ## Texts -/

/-- The characters before the first mark that opens an encoded word. -/
def beforeMark : List Char → List Char
  | '=' :: '?' :: _ => []
  | c :: cs => c :: beforeMark cs
  | [] => []

/-- The run of characters at the beginning: up to a blank, or up to an encoded word
within it. -/
def run (cs : List Char) : List Char :=
  let whole := cs.takeWhile fun c => !EncodedWord.isGap c
  let before := beforeMark whole
  if !before.isEmpty && EncodedWord.occursIn whole then before else whole

/-- The pieces of a text in at most `fuel` characters. -/
def pieces : Nat → List Char → List EncodedWord.Piece
  | 0, _ | _, [] => []
  | fuel + 1, c :: cs =>
    if EncodedWord.isGap c then
      .blank ((c :: cs).takeWhile Text.isSpacing)
        :: pieces fuel ((c :: cs).dropWhile Text.isSpacing)
    else
      match EncodedWord.read? (c :: cs) with
      | some (text, rest) => .encoded text :: pieces fuel rest
      | none =>
        let read := run (c :: cs)
        .text read :: pieces fuel ((c :: cs).drop read.length)

/-- The text of a received value. -/
def text (cs : List Char) : List Char := EncodedWord.joined false (pieces cs.length cs)

end Nurture.Delivery.Header
