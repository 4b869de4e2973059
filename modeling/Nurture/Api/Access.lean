import Nurture.Api.Exchange
import Nurture.Settings

/-!
  Access

  Requests to guarded routes must carry the configured key in a header. Without
  a configured key every request is let in.
-/

namespace Nurture.Api

/-- The header that carries the key. -/
def keyHeader : String := "X-API-Key"

/-- The configured key. The first variable counts if it holds something, else the
second one, be it empty. -/
def configuredKey (env : Environment) : Option String :=
  ((env.get? "FUNNELS_API_KEY").filter (· ≠ "")).orElse fun _ => env.get? "API_KEY"

/-- Why a request is not let in. -/
inductive Denial where
  | missingKey
  | wrongKey
  deriving DecidableEq, Repr

/-- The status of the response to a request that is not let in. -/
def Denial.status : Denial → Nat
  | missingKey => 401
  | wrongKey => 403

/-- The denial in words. -/
def Denial.message : Denial → String
  | missingKey => "Missing " ++ keyHeader ++ " header"
  | wrongKey => "Invalid API key"

/-- Lets a request in that carries the configured key, if there is one; the result
is the key that was needed. -/
def grant (configured carried : Option String) : Except Denial String :=
  match configured.filter (· ≠ "") with
  | none => .ok ""
  | some key =>
    match carried.filter (· ≠ "") with
    | none => .error .missingKey
    | some given => if given = key then .ok given else .error .wrongKey

/-- The key that data carries where one is needed: it must be a text, and both it and
the configured key must be such that they can be encoded, or they are not compared. -/
def carriedKey (configured : Option String) (data : Json) : Except Failure (Option String) :=
  match configured.filter (· ≠ "") with
  | none => .ok none
  | some key =>
    if !data.isGiven then .ok none
    else
      match data with
      | .str s => do
        let given ← encoded s
        let _ ← encoded key
        return some given
      | j => .error (.absent j.typeName "encode")

end Nurture.Api
