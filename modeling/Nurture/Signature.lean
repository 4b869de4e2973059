import Nurture.Failure

/-!
  Signatures

  What a call with arguments takes: parameters that must be given, and behind them
  some that may be. Arguments come in the order of the parameters, or by name;
  `Signature.bind` gives every argument its parameter. The object that takes the
  call counts as an argument, too.
-/

namespace Nurture

/-- What a call takes. -/
structure Signature where
  call : String
  needed : List String
  others : List String := []

namespace Signature

def parameters (s : Signature) : List String := s.needed ++ s.others

/-- What is wrong with an argument by name, when so many others come in order. -/
def nameFault? (s : Signature) (given : Nat) (name : String) : Option Failure :=
  if (s.parameters.take given).contains name then some (.repeatedArgument s.call name)
  else if s.parameters.contains name then none
  else some (.unknownArgument s.call name)

/-- What is wrong with arguments of which so many come in order and others by name. -/
def fault? (s : Signature) (given : Nat) (names : List String) : Option Failure :=
  let missing := (s.needed.drop given).filter fun name => !names.contains name
  match names.findSome? (s.nameFault? given) with
  | some e => some e
  | none =>
    if s.parameters.length < given then
      some (.tooManyArguments s.call (s.needed.length + 1) (s.parameters.length + 1) (given + 1))
    else if missing.isEmpty then none
    else some (.missingArguments s.call missing)

/-- The arguments by parameter. -/
def bind (s : Signature) (args : List Json) (named : Json.Fields) : Except Failure Json.Fields :=
  match s.fault? args.length (named.map (·.1)) with
  | some e => .error e
  | none => .ok (s.parameters.zip args ++ named)

end Signature

end Nurture
