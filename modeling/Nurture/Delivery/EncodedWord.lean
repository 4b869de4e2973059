import Nurture.Text.Base64
import Nurture.Text.Blank
import Nurture.Text.Percent
import Nurture.Text.Quoted
import Nurture.Text.Search

/-!
  Encoded words

  In a header of a mail, text that is not ASCII is written as an encoded word: between
  marks the name of a character set, a letter for the way of writing, and the bytes
  written in this way. Bytes are written in base 64, or one by one, blanks as
  underscores, and those that are not safe behind an equals sign. A text in which
  encoded words occur is read as pieces; blanks that only keep two encoded words apart
  are not part of it.
-/

namespace Nurture.Delivery.EncodedWord

/-- Whether a byte stands for itself. -/
def isSafe (b : Nat) : Bool :=
  let c := Char.ofNat b
  b < 128 && (c.isAlphanum || "-!*+/".toList.contains c)

/-- A byte in the quoted way. -/
def quotedByte (b : Nat) : List Char :=
  if b = 32 then ['_']
  else if isSafe b then [Char.ofNat b]
  else '=' :: (Text.hexDigits 2 b).map Char.toUpper

/-- A text as an encoded word, in base 64 if that is shorter. -/
def write (cs : List Char) : List Char :=
  let bytes := Text.toUtf8 cs
  let quoted := bytes.flatMap quotedByte
  let base64 := Text.toBase64 bytes
  if base64.length < quoted.length then "=?utf-8?b?".toList ++ base64 ++ "?=".toList
  else "=?utf-8?q?".toList ++ quoted ++ "?=".toList

/-- The bytes that are written in the quoted way. -/
def ofQuoted : List Char → List Nat
  | '=' :: a :: b :: rest =>
    match Text.hexValue? a, Text.hexValue? b with
    | some m, some n => (16 * m + n) :: ofQuoted rest
    | _, _ => '='.toNat :: ofQuoted (a :: b :: rest)
  | c :: rest => (if c = '_' then 32 else c.toNat) :: ofQuoted rest
  | [] => []

/-- The names of the character set of which every byte is a character. -/
def byteSets : List String :=
  ["iso_8859_1", "iso8859_1", "latin_1", "latin1", "latin", "l1", "8859", "cp819", "iso8859",
   "iso_ir_100"]

/-- The text of bytes in a character set; sets that are not known are taken for
UTF-8. -/
def textOf (charset : List Char) (bytes : List Nat) : List Char :=
  let name := charset.map fun c => if c.isAlphanum then c.toLower else '_'
  if byteSets.contains (String.ofList name) then bytes.map Char.ofNat
  else Text.ofUtf8 none bytes

/-- The text between the marks, if it is of the three parts of an encoded word. -/
def decode? (inner : List Char) : Option (List Char) :=
  match Text.splitAt '?' inner with
  | [charset, way, written] =>
    let charset := charset.takeWhile (· ≠ '*')
    if written.any fun c => 128 ≤ c.toNat then none
    else if way = ['q'] || way = ['Q'] then some (textOf charset (ofQuoted written))
    else if way = ['b'] || way = ['B'] then some (textOf charset (Text.ofBase64 written))
    else none
  | _ => none

/-- The characters before the first closing mark and those behind it. -/
def toMark : List Char → Option (List Char × List Char)
  | '?' :: '=' :: rest => some ([], rest)
  | c :: rest => (toMark rest).map fun (before, behind) => (c :: before, behind)
  | [] => none

/-- Whether what follows a closing mark shows that the mark is part of the text. -/
def goesOn (inner : List Char) : List Char → Bool
  | a :: b :: _ =>
    (Text.hexValue? a).isSome && (Text.hexValue? b).isSome && inner.count '?' < 2
  | _ => false

/-- The text of the encoded word at the beginning, and what follows it. -/
def read? : List Char → Option (List Char × List Char)
  | '=' :: '?' :: cs => do
    let (inner, rest) ← toMark cs
    let (inner, rest) :=
      if goesOn inner rest then
        match toMark rest with
        | some (more, behind) => (inner ++ '?' :: '=' :: more, behind)
        | none => (inner ++ '?' :: '=' :: rest, [])
      else (inner, rest)
    return (← decode? inner, rest)
  | _ => none

/-- Whether something like an encoded word begins with the characters. -/
def startsHere : List Char → Bool
  | '=' :: '?' :: cs =>
    match cs.dropWhile (· ≠ '?') with
    | '?' :: way :: '?' :: rest => "qQbB".toList.contains way && (toMark rest).isSome
    | _ => false
  | _ => false

/-- Whether something like an encoded word is in a run of characters. -/
def occursIn : List Char → Bool
  | [] => false
  | c :: cs => startsHere (c :: cs) || occursIn cs

/-- Whether the character parts words. -/
def isGap (c : Char) : Bool := c = ' ' || c = '\t'

/-- The text of an encoded word that is part of a name: its blanks are single. -/
def singleBlanks (inBlanks : Bool) : List Char → List Char
  | [] => []
  | c :: cs =>
    if inBlanks && Text.isSpacing c then singleBlanks true cs
    else if isGap c then ' ' :: singleBlanks true cs
    else c :: singleBlanks false cs

/-- A piece of a text in which encoded words may occur. -/
inductive Piece where
  | blank (written : List Char)
  | encoded (text : List Char)
  | text (written : List Char)

/-- The text of pieces; `behindWord` says whether an encoded word comes before. -/
def joined (behindWord : Bool) : List Piece → List Char
  | [] => []
  | .blank b :: .encoded t :: rest => (if behindWord then [] else b) ++ t ++ joined true rest
  | .blank b :: rest => b ++ joined false rest
  | .encoded t :: rest => t ++ joined true rest
  | .text t :: rest => t ++ joined false rest

end Nurture.Delivery.EncodedWord
