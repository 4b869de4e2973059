import Nurture.Delivery.EncodedWord
import Nurture.Failure

/-!
  Mailboxes

  What a header says about senders and recipients: mailboxes, alone or in a group, each
  with an address and perhaps a name. A name or a local part is made of words, dots
  and gaps, which are comments and blanks. Of a gap only a blank is shown, and none at
  either end.
-/

namespace Nurture.Delivery

/-- The characters that are no part of words. -/
def isSpecial (c : Char) : Bool := "()<>@,:;.\\\"[]".toList.contains c

/-- A text between quotes. -/
def inQuotes (cs : List Char) : List Char :=
  '"' :: (cs.flatMap fun c => if c = '\\' || c = '"' then ['\\', c] else [c]) ++ ['"']

/-- What a word says. -/
inductive Wording where
  | plain (text : List Char)
  | encoded (text : List Char)
  | quoted (pieces : List EncodedWord.Piece)

namespace Wording

def text : Wording → List Char
  | plain t => t
  | encoded t => EncodedWord.singleBlanks false t
  | quoted pieces => EncodedWord.joined false pieces

/-- A word as it is read once more, when it turns out not to be the whole. -/
def written : Wording → List Char
  | plain t | encoded t => t
  | quoted pieces => inQuotes (EncodedWord.joined false pieces)

/-- Whether nothing is in the word, although it may hold pieces. -/
def isHollow : Wording → Bool
  | encoded [] | quoted [] => true
  | _ => false

end Wording

/-- A word, and whether gaps are before and behind it. -/
structure Word where
  gapBefore : Bool
  wording : Wording
  gapBehind : Bool

/-- A part of a name or of a local part. -/
inductive Part where
  | word (w : Word)
  /-- A dot, or a backslash that is out of place. -/
  | mark (c : Char)
  | gap

/-- The blank that is shown for a gap. -/
def blankIf (gap : Bool) : List Char := if gap then [' '] else []

def Part.text : Part → List Char
  | word w => blankIf w.gapBefore ++ w.wording.text ++ blankIf w.gapBehind
  | mark c => [c]
  | gap => [' ']

/-- A name without a gap at its beginning; no name may begin with a dot. -/
def trimmedFront : List Part → Except Failure (List Part)
  | .gap :: rest => .ok rest
  | .word w :: rest => .ok (.word { w with gapBefore := false } :: rest)
  | .mark _ :: _ => .error (.absent "str" "token_type")
  | [] => .error (.tooShort false)

/-- A name, its last part first, without a gap behind it; no name may end with a dot. -/
def trimmedEnd : List Part → Except Failure (List Part)
  | .gap :: rest => .ok rest
  | .word w :: rest => .ok (.word { w with gapBehind := false } :: rest)
  | .mark _ :: _ => .error (.absent "str" "token_type")
  | [] => .error (.tooShort false)

/-- The name that is made of parts. -/
def nameOf (parts : List Part) : Except Failure (List Char) := do
  if parts.isEmpty then return []
  let parts ← trimmedFront parts
  let parts ← trimmedEnd parts.reverse
  return parts.reverse.flatMap Part.text

/-- What stands before the domain of an address. -/
inductive LocalPart where
  | whole (w : Wording)
  | parts (ps : List Part)

/-- Whether a dot follows, or nothing does. -/
def dotFollows : List Part → Bool
  | [] => true
  | .gap :: rest => dotFollows rest
  | .mark c :: _ => c = '.'
  | .word _ :: _ => false

/-- The text of the parts of a local part; gaps around dots are not part of it. -/
def localText (behindDot : Bool) : List Part → List Char
  | [] => []
  | .gap :: rest => localText behindDot rest
  | .mark c :: rest => c :: localText (c = '.') rest
  | .word w :: rest =>
    blankIf (w.gapBefore && !behindDot) ++ w.wording.text
      ++ blankIf (w.gapBehind && !dotFollows rest) ++ localText false rest

/-- The text of a local part. -/
def LocalPart.text : LocalPart → Except Failure (List Char)
  | whole w => if w.isHollow then .error (.tooShort false) else .ok w.text
  | parts ps => .ok (localText true ps)

/-- A domain, and whether the bracket that closes it is missing. -/
structure Domain where
  text : List Char
  unclosed : Bool

structure Address where
  localPart : LocalPart
  domain : Option Domain

/-- A mailbox; one that could not be read has no address. -/
structure Mailbox where
  name : List Part
  address : Option Address

namespace Mailbox

/-- A mailbox that could not be read. -/
def unreadable : Mailbox := ⟨[], none⟩

/-- The text of an address. -/
def addressText (localText domain : List Char) : List Char :=
  let before :=
    if localText.any fun c => (isSpecial c && c ≠ '.') || EncodedWord.isGap c then
      inQuotes localText
    else localText
  if domain.isEmpty then before else before ++ '@' :: domain

/-- A name as it is shown. -/
def nameText (name : List Char) : List Char := if name.any isSpecial then inQuotes name else name

def shown (m : Mailbox) : Except Failure (List Char) := do
  let name ← nameOf m.name
  let before ← (m.address.map fun a => a.localPart.text).getD (.ok [])
  let domain := ((m.address.bind fun a => a.domain).map fun d => d.text).getD []
  if (name ++ before ++ domain).any fun c => c = '\n' || c = '\r' then
    throw (.refused "invalid arguments; address parts cannot contain CR or LF")
  let address := addressText before domain
  if name.isEmpty then return if address.isEmpty then ['<', '>'] else address
  return nameText name ++ [' ', '<'] ++ address ++ ['>']

end Mailbox

/-- An entry of a list of addresses. -/
inductive Entry where
  | single (m : Mailbox)
  | group (name : List Part) (members : List Mailbox)
  /-- A group behind which something else follows. -/
  | spoiled (name : List Part)

def Entry.shown : Entry → Except Failure (List Char)
  | single m => m.shown
  | group name members => do
    let name ← nameOf name
    let members ← members.mapM Mailbox.shown
    let listed := [',', ' '].intercalate members
    return Mailbox.nameText name ++ ':' :: blankIf (!listed.isEmpty) ++ listed ++ [';']
  | spoiled name => do
    let _ ← nameOf name
    throw (.absent "Group" "local_part")

end Nurture.Delivery
