import Nurture.Failure
import Nurture.Text.Percent
import Nurture.Text.Search

/-!
  Targets

  What a request is directed at: a path, and perhaps parameters behind a question
  mark. An address may name a server, which makes no difference, and a place in the
  answer, which is not sent. A path is brought into its shortest form before its
  escapes are resolved; they are resolved twice, once for each side.
-/

namespace Nurture.Api

/-- The parameters behind a path, by name; of one that is repeated the last counts. -/
abbrev Query := List (String × String)

def Query.get? (q : Query) (key : String) : Option String :=
  (q.reverse.find? fun p => p.1 == key).map (·.2)

/-- What a request is directed at. -/
structure Target where
  path : String
  query : Query
  deriving DecidableEq, Repr

namespace Target

/-- Whether the character is a control character of ASCII. -/
def isControl (c : Char) : Bool := c.toNat < 0x20 || c.toNat = 0x7f

/-- How long an address may be. -/
def longest : Nat := 65536

/-- Whether the character may stand in the name of a scheme. -/
def isSchemeChar (c : Char) : Bool := c.isAlphanum || c = '+' || c = '.' || c = '-'

/-- Whether a scheme is named, and what follows it. -/
def splitScheme (cs : List Char) : Bool × List Char :=
  match cs.takeWhile isSchemeChar, cs.dropWhile isSchemeChar with
  | [], ':' :: rest => (false, rest)
  | c :: _, ':' :: rest => if c.isAlpha then (true, rest) else (false, cs)
  | _, _ => (false, cs)

/-- Whether a server is named, and what follows it. -/
def splitServer : List Char → Bool × List Char
  | '/' :: '/' :: rest => (rest.takeWhile (· ≠ '/') ≠ [], rest.dropWhile (· ≠ '/'))
  | cs => (false, cs)

/-- The pieces of a path without those that stand for the same place or the one
above; `done` are the pieces before, the last one first. -/
def resolve (done : List (List Char)) : List (List Char) → List (List Char)
  | [] => done.reverse
  | piece :: rest =>
    if piece = ['.'] then resolve done rest
    else if piece = ['.', '.'] then
      match done with
      | [] | [[]] => resolve done rest
      | _ :: above => resolve above rest
    else resolve (piece :: done) rest

/-- The shortest form of a path. -/
def shortest (path : List Char) : List Char :=
  match List.intercalate ['/'] (resolve [] (Text.splitAt '/' path)) with
  | [] => ['/']
  | cs => cs

/-- The path that an address names, from its beginning up to the parameters. -/
def pathOf (address : List Char) : Except Failure (List Char) :=
  let (hasScheme, rest) := splitScheme address
  let (hasServer, path) := splitServer rest
  match hasScheme || hasServer, path with
  | false, '/' :: '/' :: _ =>
    .error (.badAddress "Relative URLs cannot have a path starting with '//'")
  | false, ':' :: _ =>
    .error (.badAddress "Relative URLs cannot have a path starting with ':'")
  | _, path =>
    if hasScheme && hasServer then .ok (shortest path)
    else .ok (shortest ('/' :: path.dropWhile (· = '/')))

/-- A name or a value among the parameters, in which a plus stands for a blank. -/
def parameterPart (cs : List Char) : String :=
  Text.unescaped (String.ofList (cs.map fun c => if c = '+' then ' ' else c))

/-- The parameters in a text. -/
def queryOf (cs : List Char) : Query :=
  (Text.splitAt '&' cs).filterMap fun piece =>
    if piece = [] then none
    else
      some (parameterPart (piece.takeWhile (· ≠ '=')),
        parameterPart ((piece.dropWhile (· ≠ '=')).drop 1))

/-- What keeps an address from being one. -/
def fault? (address : String) : Option Failure :=
  if longest < address.length then some (.badAddress "URL too long")
  else
    match address.toList.findIdx? isControl with
    | none => none
    | some i =>
      let c := String.ofList (address.toList.drop i |>.take 1)
      some (.badAddress ("Invalid non-printable ASCII character in URL, " ++ Text.quoted c
        ++ " at position " ++ toString i ++ "."))

/-- A text is fit to be sent if its characters can be encoded, one by one. -/
def checkWhole (s : String) : Except Failure Unit :=
  match Text.encodingFault? s with
  | some f => .error (.notEncodable { f with start := 0, stop := 1 })
  | none => .ok ()

def read (address : String) : Except Failure Target := do
  if let some fault := fault? address then .error fault
  checkWhole address
  let sent := address.toList.takeWhile (· ≠ '#')
  let path ← pathOf (sent.takeWhile (· ≠ '?'))
  return {
    path := Text.unescaped (Text.unescaped (String.ofList path))
    query := queryOf ((sent.dropWhile (· ≠ '?')).drop 1) }

end Target

end Nurture.Api
