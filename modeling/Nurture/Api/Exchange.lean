import Nurture.Api.Command
import Nurture.Json.Bytes
import Nurture.Json.Dump
import Nurture.Json.Printer
import Nurture.Text.LowerCase

/-!
  Requests and responses

  What is exchanged with a client, and its form as data: a request names its
  method and address, and may carry parameters, headers and a body; a response has
  a status and perhaps a body. Both must be fit to be sent: their texts must be
  such that they can be encoded, and issues are told with the values found.
-/

namespace Nurture.Api

structure Request where
  method : String
  path : String
  query : Query
  headers : List (String × String)
  body : String

/-- What a response holds. -/
inductive Content where
  | nothing
  | data (j : Json)
  | text (s : String)
  | issues (found : List Validation.Issue)

structure Response where
  status : Nat
  content : Content

namespace Response

/-- A response that holds data. -/
def ok (j : Json) : Response := ⟨200, .data j⟩

/-- A response that holds what was created. -/
def created (j : Json) : Response := ⟨201, .data j⟩

/-- A response that says in words why a request was not fulfilled. -/
def refusal (status : Nat) (detail : String) : Response :=
  ⟨status, .data (.obj [("detail", .str detail)])⟩

/-- The response to a request with issues. -/
def unprocessable (issues : List Validation.Issue) : Response := ⟨422, .issues issues⟩

/-- The response to a request that cannot be fulfilled for unknown reasons. -/
def internalError : Response := ⟨500, .text "Internal Server Error"⟩

/-- The response to a request for something that is not there. -/
def notFound (kind : String) : Response := refusal 404 (kind ++ " not found")

end Response

/-! ## Requests -/

/-- The value of a header, whose name may be in any ASCII case. -/
def Request.header? (r : Request) (name : String) : Option String :=
  (r.headers.find? fun h => h.1.toLower == name.toLower).map (·.2)

/-- The header that tells what a body is. -/
def bodyHeader : String := "Content-Type"

/-- Whether a header says that the body is JSON. -/
def saysJson (header : String) : Bool :=
  let kind := Text.lower (Text.strip (String.ofList (header.toList.takeWhile (· ≠ ';'))))
  match Text.splitAt '/' kind.toList with
  | [main, sub] =>
    String.ofList main == "application"
      && (String.ofList sub == "json" || "+json".toList.isSuffixOf sub)
  | _ => false

def Request.isJson (r : Request) : Bool := (r.header? bodyHeader).any saysJson

/-- The text of a value as a parameter. -/
def parameterText : Json → String
  | .null => ""
  | .bool b => if b then "true" else "false"
  | j => j.displayText

/-- The parameters of an object; a list gives one for each of its items. -/
def parametersOf (fields : Json.Fields) : Query :=
  fields.flatMap fun f =>
    match f.2 with
    | .arr items => items.map fun j => (f.1, parameterText j)
    | j => [(f.1, parameterText j)]

/-- The parameters of a request: those given apart, or else those in its address. -/
def queryOf (given : Option Json) (target : Target) : Except Failure Query :=
  match given with
  | some (.obj fields) => do
    let q := parametersOf fields
    for p in q do
      Target.checkWhole p.1
      Target.checkWhole p.2
    return q
  | _ => .ok target.query

/-- A text is fit for a header if it is ASCII. -/
def checkAscii (s : String) : Except Failure String :=
  match Text.asciiFault? s with
  | some f => .error (.notAscii f)
  | none => .ok s

/-- The header of a field, whose value must be a text. -/
def headerOf (field : String × Json) : Except Failure (String × String) := do
  let name ← checkAscii field.1
  match field.2 with
  | .str value => return (name, ← checkAscii value)
  | j => .error (.notHeader j.typeName)

def headersOf : Option Json → Except Failure (List (String × String))
  | some (.obj fields) => fields.mapM headerOf
  | _ => .ok []

/-- A text that can be encoded. -/
def encoded (s : String) : Except Failure String :=
  match Text.encodingFault? s with
  | some f => .error (.notEncodable f)
  | none => .ok s

/-- The body that the fields of a request give: a text as it is, or data, whose
numbers must have digits. -/
def bodyOf (j : Json) : Except Failure String :=
  match j.get? "body", j.get? "json" with
  | some (.str s), _ => encoded s
  | _, none | _, some .null => .ok ""
  | _, some data => if data.isFinite then encoded data.renderPlain else .error .notFinite

/-- A request from its fields. Methods are in capital letters, and a body is JSON
unless a header says something else. -/
def Request.ofJson (j : Json) : Except Failure Request := do
  let target ← Target.read (((j.get? "path").map Json.displayText).getD "/")
  let query ← queryOf (j.get? "query") target
  let headers ← headersOf (j.get? "headers")
  let body ← bodyOf j
  return {
    method := (((j.get? "method").map Json.displayText).getD "GET").toUpper
    path := target.path
    query := query
    headers := headers ++ [(bodyHeader, "application/json")]
    body := body }

/-! ## Responses -/

/-- Whether an issue can be told: the value found must have digits in all its
numbers, and it and its place must be of texts that can be encoded. -/
def isTellable (i : Validation.Issue) : Bool :=
  i.input.isFinite && i.input.isWhole && (Json.arr (i.place.map Validation.Place.toJson)).isWhole

/-- Whether what a response holds can be sent. -/
def Content.isSendable : Content → Bool
  | nothing => true
  | data j => j.isWhole
  | text s => Text.isWhole s
  | issues found => found.all isTellable

/-- The response as it is sent: one that cannot be sent is an internal error. -/
def Response.sent (r : Response) : Response := if r.content.isSendable then r else .internalError

def Content.toJson : Content → Json
  | nothing => .null
  | data j => j.dumped
  | text s => .str s
  | issues found => .obj [("detail", .arr (found.map Validation.Issue.toJson))]

def Response.toJson (r : Response) : Json :=
  .obj [("status", .int r.status), ("body", r.content.toJson)]

end Nurture.Api
