import Nurture.Delivery.Mailbox

/-!
  Lists of addresses

  The value of a header with senders or recipients is read as a list of entries. A
  mailbox is a name with an address in angle brackets, or an address alone; what is
  neither is passed over up to the next comma. Much is let through that the rules for
  mail do not allow.

  A construct either is not there, and then another one is tried, or reading breaks off.
-/

namespace Nurture.Delivery

/-- Why a construct was not read. -/
inductive Refusal where
  /-- It is not there. -/
  | mismatch
  /-- Reading breaks off. -/
  | broken (f : Failure)

/-- What was read, mostly together with the characters behind it. -/
abbrev Reading := Except Refusal

/-- A second reading, if the first construct is not there. -/
def Reading.orElse {α : Type} (first second : Reading α) : Reading α :=
  match first with
  | .error .mismatch => second
  | r => r

/-- Characters that may be part of an atom. -/
def isAtomChar (c : Char) : Bool := !isSpecial c && !EncodedWord.isGap c

/-- Characters at which a name ends. -/
def endsPhrase (c : Char) : Bool := isSpecial c && c ≠ '.' && c ≠ '"' && c ≠ '('

/-! ## Gaps -/

/-- What follows a comment that is open in `depth` others; behind a backslash a
bracket does not count. -/
def behindComment (depth : Nat) (escaped : Bool) : List Char → List Char
  | [] => []
  | c :: cs =>
    if escaped || EncodedWord.isGap c then behindComment depth false cs
    else if c = '\\' then behindComment depth true cs
    else if c = '(' then behindComment (depth + 1) false cs
    else if c = ')' then
      match depth with
      | 0 => cs
      | outer + 1 => behindComment outer false cs
    else behindComment depth false cs

/-- Whether a gap begins. -/
def startsGap : List Char → Bool
  | c :: _ => EncodedWord.isGap c || c = '('
  | [] => false

/-- What follows a gap, in at most `fuel` comments and blanks. -/
def behindGapWithin : Nat → List Char → List Char
  | 0, cs => cs
  | fuel + 1, cs =>
    match cs with
    | [] => []
    | c :: rest =>
      if EncodedWord.isGap c then behindGapWithin fuel (rest.dropWhile Text.isSpacing)
      else if c = '(' then behindGapWithin fuel (behindComment 0 false rest)
      else c :: rest

/-- What follows a gap, if there is one. -/
def behindGap (cs : List Char) : List Char := behindGapWithin cs.length cs

/-- The gap that begins the characters. -/
def gapOf (cs : List Char) : List Char := cs.take (cs.length - (behindGap cs).length)

/-! ## Words -/

/-- A run of characters up to a blank or one of `ends`; backslashes take the meaning
from the next character. -/
def unescaped (ends : List Char) (escaped : Bool) : List Char → List Char × List Char
  | [] => ([], [])
  | c :: cs =>
    if EncodedWord.isGap c then ([], c :: cs)
    else if !escaped && c = '\\' then unescaped ends true cs
    else if !escaped && ends.contains c then ([], c :: cs)
    else
      let (text, rest) := unescaped ends false cs
      (c :: text, rest)

/-- The pieces up to a closing quote, at most `fuel` of them, and what follows it. -/
def quotedPieces : Nat → List Char → List EncodedWord.Piece × List Char
  | 0, cs => ([], cs)
  | fuel + 1, cs =>
    match cs with
    | [] => ([], [])
    | '"' :: rest => ([], rest)
    | c :: _ =>
      let (piece, rest) : EncodedWord.Piece × List Char :=
        if EncodedWord.isGap c then
          (.blank (cs.takeWhile Text.isSpacing), cs.dropWhile Text.isSpacing)
        else
          match EncodedWord.read? cs with
          | some (text, rest) => (.encoded text, rest)
          | none =>
            let (text, rest) := unescaped ['"'] false cs
            (.text text, rest)
      let (pieces, rest) := quotedPieces fuel rest
      (piece :: pieces, rest)

/-- The word behind an opening quote. -/
def quotedWording : List Char → Wording × List Char
  | '"' :: rest => (.quoted [.text []], rest)
  | cs =>
    let (pieces, rest) := quotedPieces (cs.length + 1) cs
    (.quoted pieces, rest)

/-- An atom, which may be an encoded word. -/
def atom? (cs : List Char) : Option (Wording × List Char) :=
  match EncodedWord.read? cs with
  | some (text, rest) => some (.encoded text, rest)
  | none =>
    match cs.takeWhile isAtomChar with
    | [] => none
    | text => some (.plain text, cs.dropWhile isAtomChar)

/-- Characters of atoms with single dots between them. -/
def dotted? (behindDot : Bool) : List Char → Option (List Char × List Char)
  | [] => if behindDot then none else some ([], [])
  | c :: cs =>
    if isAtomChar c || (c = '.' && !behindDot) then
      (dotted? (c = '.') cs).map fun (text, rest) => (c :: text, rest)
    else if behindDot then none
    else some ([], c :: cs)

/-- Atoms with single dots between them, or an encoded word. -/
def dotAtom? (cs : List Char) : Option (Wording × List Char) :=
  match EncodedWord.read? cs with
  | some (text, rest) => some (.encoded text, rest)
  | none => (dotted? true cs).map fun (text, rest) => (.plain text, rest)

/-- A word without gaps. -/
def wording? : List Char → Option (Wording × List Char)
  | '"' :: rest => some (quotedWording rest)
  | cs => atom? cs

/-- A word with the gaps around it. -/
def word? (cs : List Char) : Option (Word × List Char) :=
  (wording? (behindGap cs)).map fun (wording, rest) =>
    (⟨startsGap cs, wording, startsGap rest⟩, behindGap rest)

/-- The parts of a name, at most `fuel` of them. -/
def phraseWithin : Nat → List Char → List Part × List Char
  | 0, cs => ([], cs)
  | fuel + 1, cs =>
    match cs with
    | [] => ([], [])
    | c :: rest =>
      if endsPhrase c then ([], cs)
      else
        let (part, rest) : Part × List Char :=
          if c = '.' then (.mark c, rest)
          else
            match word? cs with
            | some (w, rest) => (.word w, rest)
            | none => (.gap, behindGap cs)
        let (parts, rest) := phraseWithin fuel rest
        (part :: parts, rest)

def phrase (cs : List Char) : List Part × List Char := phraseWithin cs.length cs

/-! ## Addresses -/

/-- The parts of a local part that is not one word, at most `fuel` of them. -/
def localPartsWithin : Nat → List Char → List Part × List Char
  | 0, cs => ([], cs)
  | fuel + 1, cs =>
    match cs with
    | [] => ([], [])
    | c :: rest =>
      if endsPhrase c && c ≠ '\\' then ([], cs)
      else
        let (part, rest) : Part × List Char :=
          if c = '.' || c = '\\' then (.mark c, rest)
          else
            match word? cs with
            | some (w, rest) => (.word w, rest)
            | none => (.gap, behindGap cs)
        let (parts, rest) := localPartsWithin fuel rest
        (part :: parts, rest)

/-- A local part that is not one word. -/
def looseLocalPart (cs : List Char) : Reading (LocalPart × List Char) :=
  match localPartsWithin cs.length cs with
  | ([], _) | ([.gap], _) => .error (.broken (.tooShort false))
  | (parts, rest) => .ok (.parts parts, rest)

/-- Whether a local part goes on. -/
def goesOn : List Char → Bool
  | c :: _ => c = '\\' || !endsPhrase c
  | [] => false

/-- What begins a local part, without gaps. -/
def firstWording? (cs : List Char) : Option (Wording × List Char) :=
  (dotAtom? cs).orElse fun _ => wording? cs

/-- A local part: one word, or else everything up to the end of a name, which is then
read once more. -/
def localPart (cs : List Char) : Reading (LocalPart × List Char) :=
  let start := behindGap cs
  if cs.isEmpty then .error (.broken (.tooShort true))
  else
    match firstWording? start with
    | none => if goesOn start then looseLocalPart cs else .error .mismatch
    | some (wording, rest) =>
      if goesOn (behindGap rest) then
        looseLocalPart (gapOf cs ++ wording.written ++ rest)
      else .ok (.whole wording, behindGap rest)

/-- The atoms of a domain that follow dots, at most `fuel` of them. -/
def domainTail? : Nat → List Char → Option (List Char × List Char)
  | 0, cs => some ([], cs)
  | fuel + 1, cs =>
    match cs with
    | '.' :: rest => do
      let (wording, rest) ← atom? (behindGap rest)
      let (text, rest) ← domainTail? fuel (behindGap rest)
      return ('.' :: wording.text ++ text, rest)
    | _ => some ([], cs)

/-- The characters that no blanks are. -/
def withoutBlanks (cs : List Char) : List Char := cs.filter fun c => !Text.isSpacing c

/-- Blanks at the beginning are passed over. -/
def behindBlanks : List Char → List Char
  | c :: cs => if EncodedWord.isGap c then cs.dropWhile Text.isSpacing else c :: cs
  | [] => []

/-- A domain behind an opening bracket. -/
def literalDomain (cs : List Char) : Reading (Domain × List Char) :=
  let (text, rest) := unescaped ['[', ']'] false (behindBlanks cs)
  match behindBlanks rest with
  | [] => .ok (⟨text, true⟩, [])
  | ']' :: rest => .ok (⟨withoutBlanks ('[' :: text ++ [']']), false⟩, behindGap rest)
  | _ => .error .mismatch

def domain (cs : List Char) : Reading (Domain × List Char) :=
  match cs, behindGap cs with
  | [], _ => .error (.broken (.tooShort true))
  | _, '[' :: rest => literalDomain rest
  | _, start =>
    match (dotAtom? start).orElse fun _ => atom? start with
    | none => .error .mismatch
    | some (wording, rest) =>
      let rest := behindGap rest
      if rest.head? = some '@' then .error .mismatch
      else
        match domainTail? rest.length rest with
        | none => .error .mismatch
        | some (tail, rest) => .ok (⟨withoutBlanks (wording.text ++ tail), false⟩, rest)

/-- An address, perhaps without a domain. -/
def address (cs : List Char) : Reading (Address × List Char) := do
  let (before, rest) ← localPart cs
  match rest with
  | '@' :: rest =>
    let (d, rest) ← domain rest
    return (⟨before, some d⟩, rest)
  | _ => return (⟨before, none⟩, rest)

/-- What follows gaps and commas, at most `fuel` of them. -/
def behindCommas : Nat → List Char → List Char
  | 0, cs => cs
  | fuel + 1, cs =>
    match cs with
    | ',' :: rest => behindCommas fuel rest
    | _ => if startsGap cs then behindCommas fuel (behindGap cs) else cs

/-- The further stations of a route, at most `fuel` of them: whether the bracket of
one is not closed. -/
def stations : Nat → List Char → Reading (Bool × List Char)
  | 0, cs => .ok (false, cs)
  | fuel + 1, cs =>
    match cs with
    | ',' :: rest =>
      match rest, behindGap rest with
      | [], _ => .error .mismatch
      | _, [] => .error (.broken (.tooShort true))
      | _, '@' :: rest => do
        let (d, rest) ← domain rest
        let (unclosed, rest) ← stations fuel rest
        return (d.unclosed || unclosed, rest)
      | _, rest => stations fuel rest
    | _ => .ok (false, cs)

/-- A route before an address: whether a bracket is not closed. -/
def route (cs : List Char) : Reading (Bool × List Char) :=
  match behindCommas cs.length cs with
  | '@' :: rest => do
    let (d, rest) ← domain rest
    let (unclosed, rest) ← stations rest.length rest
    match rest with
    | ':' :: rest => return (d.unclosed || unclosed, rest)
    | _ => throw .mismatch
  | _ => .error .mismatch

/-- An address that was read and may end with an angle bracket; with it whether the
bracket of a domain is not closed. -/
def closed (unclosed : Bool) (a : Address) (rest : List Char) :
    (Option Address × Bool) × List Char :=
  let unclosed := unclosed || ((a.domain.map fun d => d.unclosed).getD false)
  match rest with
  | '>' :: rest => ((some a, unclosed), behindGap rest)
  | _ => ((some a, unclosed), behindGap rest)

/-- An address in angle brackets, which may be empty. -/
def angleAddress : List Char → Reading ((Option Address × Bool) × List Char)
  | ['<'] => .error (.broken (.tooShort true))
  | '<' :: '>' :: rest => .ok ((none, false), rest)
  | '<' :: cs =>
    Reading.orElse ((address cs).map fun (a, rest) => closed false a rest) do
      let (unclosed, rest) ← route cs
      let (a, rest) ← address rest
      return closed unclosed a rest
  | _ => .error .mismatch

/-- A name, if there is one before an angle bracket. -/
def nameBefore (gapBefore : Bool) : List Char → Reading (List Part × List Char)
  | '<' :: rest => .ok ([], '<' :: rest)
  | [] => .error .mismatch
  | c :: cs =>
    if endsPhrase c then .error .mismatch
    else
      match phrase (c :: cs) with
      | (_, []) => .error .mismatch
      | (.mark m :: parts, rest) =>
        if gapBefore then .error (.broken (.noItems "ValueTerminal"))
        else .ok (.mark m :: parts, rest)
      | (parts, rest) => .ok (parts, rest)

/-- A name with an address in angle brackets. -/
def namedMailbox (cs : List Char) : Reading ((Mailbox × Bool) × List Char) := do
  let (name, rest) ← nameBefore (startsGap cs) (behindGap cs)
  let ((a, unclosed), rest) ← angleAddress rest
  return ((⟨name, a⟩, unclosed), rest)

/-- An address alone. -/
def bareMailbox (cs : List Char) : Reading ((Mailbox × Bool) × List Char) := do
  let (a, rest) ← address cs
  return ((⟨[], some a⟩, (a.domain.map fun d => d.unclosed).getD false), rest)

def mailbox (cs : List Char) : Reading (Mailbox × List Char) := do
  let ((m, unclosed), rest) ← Reading.orElse (namedMailbox cs) (bareMailbox cs)
  if unclosed then throw (.broken (.absent "InvalidHeaderDefect" "all_defects"))
  return (m, rest)

/-! ## Lists -/

/-- What follows something unreadable up to one of `ends`, in at most `fuel` parts. -/
def behindUnreadable (ends : List Char) : Nat → List Char → List Char
  | 0, cs => cs
  | fuel + 1, cs =>
    match cs with
    | [] => []
    | c :: rest =>
      if ends.contains c then cs
      else if endsPhrase c then behindUnreadable ends fuel rest
      else behindUnreadable ends fuel (phrase cs).2

/-- Whether one of `ends` follows, or nothing does. -/
def isAtEnd (ends : List Char) : List Char → Bool
  | [] => true
  | c :: _ => ends.contains c

/-- What stands in the place of an entry that cannot be read: nothing if it is empty. -/
def substitute? (ends : List Char) (cs : List Char) : Option Mailbox × List Char :=
  let rest := behindGap cs
  if isAtEnd ends rest then (none, rest)
  else (some .unreadable, behindUnreadable ends rest.length rest)

/-- A comma at the beginning is passed over. -/
def behindComma : List Char → List Char
  | ',' :: rest => rest
  | cs => cs

/-- The mailboxes of a group, in at most `fuel` places. -/
def mailboxes : Nat → List Char → Reading (List Mailbox × List Char)
  | 0, cs => .ok ([], cs)
  | fuel + 1, cs =>
    let ends := [',', ';']
    if cs.isEmpty || cs.head? = some ';' then .ok ([], cs)
    else do
      let (m, rest) ←
        match mailbox cs with
        | .ok (m, rest) => Except.ok (some m, rest)
        | .error .mismatch => .ok (substitute? ends cs)
        | .error (.broken f) => .error (.broken f)
      let rest := behindComma (behindUnreadable ends rest.length rest)
      let (more, rest) ← mailboxes fuel rest
      return (m.toList ++ more, rest)

/-- A group: its name, a colon, and its mailboxes up to a semicolon. -/
def group (cs : List Char) : Reading (Entry × List Char) :=
  match phrase cs with
  | (name, ':' :: ';' :: rest) => .ok (.group name [], rest)
  | (name, ':' :: rest) => do
    let rest := behindGap rest
    let (members, rest) ← mailboxes rest.length rest
    return (.group name members, behindGap (rest.drop 1))
  | _ => .error .mismatch

def entry (cs : List Char) : Reading (Entry × List Char) :=
  Reading.orElse (group cs) ((mailbox cs).map fun (m, rest) => (.single m, rest))

/-- An entry behind which something else follows. -/
def Entry.spoil : Entry → Entry
  | group name _ => spoiled name
  | e => e

/-- The entries of a list, in at most `fuel` places. -/
def entries : Nat → List Char → Except Failure (List Entry)
  | 0, _ => .ok []
  | fuel + 1, cs =>
    let ends := [',']
    if cs.isEmpty then .ok []
    else do
      let (e, rest) ←
        match entry cs with
        | .ok (e, rest) => Except.ok (some (if isAtEnd ends rest then e else e.spoil), rest)
        | .error .mismatch =>
          let (m, rest) := substitute? ends cs
          .ok (m.map .single, rest)
        | .error (.broken f) => .error f
      let rest := behindComma (behindUnreadable ends rest.length rest)
      let more ← entries fuel rest
      return e.toList ++ more

/-- A list of addresses as it is shown. -/
def shownAddresses (cs : List Char) : Except Failure (List Char) := do
  let es ← entries cs.length cs
  let shown ← es.mapM Entry.shown
  return [',', ' '].intercalate shown

end Nurture.Delivery
