import Nurture.Number.Numeral
import Nurture.Text.DecimalDigit
import Nurture.Text.Search

/-!
  The command line

  Two commands: `process` runs one pass, `serve` runs the server at a host and a
  port. Arguments are first told apart by their spelling: long options may be
  shortened as long as only one fits, and may carry their value behind an equals
  sign; a negative number is no option. They are then gone through in order. A
  request for help counts as soon as it is reached; arguments that nothing takes
  are a misuse, but only at the end.
-/

namespace Nurture.CommandLine

/-- What the command line asks for. -/
inductive Invocation where
  | process
  | serve (host : String) (port : Int)
  | help
  | misuse
  deriving DecidableEq, Repr

/-- The options. -/
inductive Switch where
  | help
  | host
  | port
  deriving DecidableEq, Repr

/-- The spellings of options that a part of the command line knows. -/
abbrev Spellings := List (String × Switch)

/-- The options before the command. -/
def outer : Spellings := [("-h", .help), ("--help", .help)]

/-- The options of `serve`. -/
def serving : Spellings := outer ++ [("--host", .host), ("--port", .port)]

/-- What an argument is by its spelling. -/
inductive Argument where
  /-- No option. -/
  | plain (text : String)
  /-- A known option, whether it is spelled as a letter, and the value it carries. -/
  | switch (s : Switch) (letter : Bool) (value : Option String)
  /-- Looks like an option but is none. -/
  | unknown
  /-- Short for more than one option. -/
  | ambiguous
  /-- The mark from which on there are no options. -/
  | mark
  deriving DecidableEq, Repr

/-- Whether the text is a negative number. -/
def isNegativeNumber : List Char → Bool
  | '-' :: cs =>
    let whole := cs.takeWhile Text.isDecimalDigit
    match cs.dropWhile Text.isDecimalDigit with
    | '.' :: rest =>
      let part := rest.takeWhile Text.isDecimalDigit
      !part.isEmpty && endsHere (rest.dropWhile Text.isDecimalDigit)
    | rest => !whole.isEmpty && endsHere rest
  | _ => false
where
  /-- Whether nothing follows, or a line end. -/
  endsHere (rest : List Char) : Bool := rest = [] || rest = ['\n']

/-- The text before the first equals sign, and the text behind it if there is one. -/
def splitValue (cs : List Char) : List Char × Option String :=
  match cs.dropWhile (· ≠ '=') with
  | [] => (cs, none)
  | _ :: value => (cs.takeWhile (· ≠ '='), some (String.ofList value))

/-- The option of a spelling. -/
def spelled? (known : Spellings) (cs : List Char) : Option Switch :=
  (known.find? fun k => k.1.toList == cs).map (·.2)

/-- The arguments that a spelling of which no option is known may be short for. -/
def shortFor (known : Spellings) (cs : List Char) : List Argument :=
  match cs with
  | '-' :: '-' :: _ =>
    let (name, value) := splitValue cs
    known.filterMap fun (k, s) =>
      if name.isPrefixOf k.toList then some (.switch s false value) else none
  | '-' :: c :: rest =>
    known.filterMap fun (k, s) =>
      if k.toList = ['-', c] then some (.switch s true (some (String.ofList rest)))
      else if cs.isPrefixOf k.toList then some (.switch s false none)
      else none
  | _ => []

/-- What an argument is. -/
def classify (known : Spellings) (text : String) : Argument :=
  let cs := text.toList
  match cs with
  | '-' :: rest =>
    if rest = ['-'] then .mark
    else
      match spelled? known cs with
      | some s => .switch s false none
      | none =>
        if rest = [] then .plain text
        else
          match splitValue cs with
          | (name, some value) =>
            match spelled? known name with
            | some s => .switch s (name.length = 2) (some value)
            | none => guess cs
          | _ => guess cs
  | _ => .plain text
where
  /-- What an argument is that is not the spelling of an option. -/
  guess (cs : List Char) : Argument :=
    match shortFor known cs with
    | [a] => a
    | _ :: _ :: _ => .ambiguous
    | [] => if isNegativeNumber cs || cs.contains ' ' then .plain (String.ofList cs) else .unknown

/-- What the arguments are; behind the mark all are plain. -/
def classifyAll (known : Spellings) : List String → List Argument
  | [] => []
  | text :: rest =>
    match classify known text with
    | .mark => .mark :: rest.map .plain
    | a => a :: classifyAll known rest

/-- Whether a request for help that carries a value is one: its letter may be
repeated. -/
def isHelp (letter : Bool) (value : Option String) : Bool :=
  match value with
  | none => true
  | some v => letter && v != "" && v.toList.all (· = 'h')

/-- Host and port as far as they are given. -/
structure Address where
  host : String
  port : Int
  deriving DecidableEq, Repr

/-- Where the server listens if nothing else is said. -/
def Address.usual : Address := ⟨"0.0.0.0", 8000⟩

def Address.toPair (a : Address) : String × Int := (a.host, a.port)

/-- The address with the value of an option. -/
def Address.set (a : Address) (s : Switch) (value : String) : Option Address :=
  match s with
  | .host => some { a with host := value }
  | .port =>
    match Numeral.readInteger value with
    | .ok port => some { a with port := port }
    | .error _ => none
  | .help => none

/-- Goes through the arguments of a command; `strays` tells whether any was taken by
nothing. The result is the address, or what the command line asks for instead. -/
def options : Address → Bool → List Argument → Except Invocation Address
  | a, strays, [] => if strays then .error .misuse else .ok a
  | _, _, .switch .help letter value :: _ =>
    .error (if isHelp letter value then .help else .misuse)
  | a, strays, .switch s _ (some value) :: rest =>
    match a.set s value with
    | some a => options a strays rest
    | none => .error .misuse
  | a, strays, .switch s _ none :: .plain value :: rest =>
    match a.set s value with
    | some a => options a strays rest
    | none => .error .misuse
  | _, _, .switch _ _ none :: _ => .error .misuse
  | a, _, _ :: rest => options a true rest

/-- The arguments behind a command, unless one of them is short for too much. -/
def command (known : Spellings) (strays : Bool) (rest : List String) : Except Invocation Address :=
  let arguments := classifyAll known rest
  if arguments.contains .ambiguous then .error .misuse else options .usual strays arguments

/-- What the arguments ask for; `strays` tells whether one before them was taken by
nothing. -/
def parseFrom (strays : Bool) : List String → Invocation
  | [] => .misuse
  | text :: rest =>
    match classify outer text with
    | .switch _ letter value => if isHelp letter value then .help else .misuse
    | .unknown => parseFrom true rest
    | .plain name =>
      if name = "process" then
        match command outer strays rest with
        | .ok _ => .process
        | .error i => i
      else if name = "serve" then
        match command serving strays rest with
        | .ok a => .serve a.host a.port
        | .error i => i
      else .misuse
    | .mark | .ambiguous => .misuse

def parse (args : List String) : Invocation := parseFrom false args

end Nurture.CommandLine
