import Nurture.Json.Display

/-!
  Issues

  What a check has to say against data from outside: a complaint, the place in
  the data, and the value found there. `Report.text` shows all issues of one
  piece of data.
-/

namespace Nurture.Validation

/-- One step into a piece of data. -/
inductive Place where
  | field (name : String)
  | index (i : Nat)
  deriving DecidableEq, Repr

/-- What is wrong with a value. -/
inductive Complaint where
  | missing
  | notText
  | notWhole
  | tooShort (least : Nat)
  | notInteger
  | notIntegerText
  | hasFraction
  | tooManyDigits
  | notFinite
  | negative
  | notNumber
  | notNumberText
  | notBoolean
  | notBooleanText
  | notList
  | notMapping
  | notRecord (name : String)
  | notFields
  | notLiteral (choices : List String)
  | notChoice (choices : List String)
  | noTag
  | unknownTag (tag : String)
  | notTime
  | notTimeText
  | unheldTime
  | malformed
  | refused (reason : String)
  deriving DecidableEq, Repr

namespace Complaint

/-- The choices in quotes, the last one behind an "or". -/
def choicesText : List String → String
  | [] => ""
  | [a] => Text.quoted a
  | [a, b] => Text.quoted a ++ " or " ++ Text.quoted b
  | a :: rest => Text.quoted a ++ ", " ++ choicesText rest

/-- The short name of the complaint. -/
def code : Complaint → String
  | missing => "missing"
  | notText => "string_type"
  | notWhole => "string_unicode"
  | tooShort _ => "string_too_short"
  | notInteger => "int_type"
  | notIntegerText => "int_parsing"
  | hasFraction => "int_from_float"
  | tooManyDigits => "int_parsing_size"
  | notFinite => "finite_number"
  | negative => "greater_than_equal"
  | notNumber => "float_type"
  | notNumberText => "float_parsing"
  | notBoolean => "bool_type"
  | notBooleanText => "bool_parsing"
  | notList => "list_type"
  | notMapping => "dict_type"
  | notRecord _ => "model_type"
  | notFields => "model_attributes_type"
  | notLiteral _ => "literal_error"
  | notChoice _ => "enum"
  | noTag => "union_tag_not_found"
  | unknownTag _ => "union_tag_invalid"
  | notTime => "datetime_type"
  | notTimeText => "datetime_from_date_parsing"
  | unheldTime => "datetime_parsing"
  | malformed => "json_invalid"
  | refused _ => "value_error"

def message : Complaint → String
  | missing => "Field required"
  | notText => "Input should be a valid string"
  | notWhole => "Input should be a valid string, unable to parse raw data as a unicode string"
  | tooShort 1 => "String should have at least 1 character"
  | tooShort n => "String should have at least " ++ toString n ++ " characters"
  | notInteger => "Input should be a valid integer"
  | notIntegerText => "Input should be a valid integer, unable to parse string as an integer"
  | hasFraction => "Input should be a valid integer, got a number with a fractional part"
  | tooManyDigits => "Unable to parse input string as an integer, exceeded maximum size"
  | notFinite => "Input should be a finite number"
  | negative => "Input should be greater than or equal to 0"
  | notNumber => "Input should be a valid number"
  | notNumberText => "Input should be a valid number, unable to parse string as a number"
  | notBoolean => "Input should be a valid boolean"
  | notBooleanText => "Input should be a valid boolean, unable to interpret input"
  | notList => "Input should be a valid list"
  | notMapping => "Input should be a valid dictionary"
  | notRecord name => "Input should be a valid dictionary or instance of " ++ name
  | notFields => "Input should be a valid dictionary or object to extract fields from"
  | notLiteral choices => "Input should be " ++ choicesText choices
  | notChoice choices => "Input should be " ++ choicesText choices
  | noTag => "Unable to extract tag using discriminator 'type'"
  | unknownTag tag =>
    "Input tag '" ++ tag ++ "' found using 'type' does not match any of the expected tags: "
      ++ "'EMAIL', 'WHATSAPP', 'DELAY', 'CONDITION'"
  | notTime => "Input should be a valid datetime"
  | notTimeText => "Input should be a valid datetime or date"
  | unheldTime => "Input should be a valid datetime"
  | malformed => "JSON decode error"
  | refused reason => "Value error, " ++ reason

/-- Whether the complaint is about a time. -/
def isAboutTime : Complaint → Bool
  | notTime | notTimeText | unheldTime => true
  | _ => false

end Complaint

def Place.toJson : Place → Json
  | field name => .str name
  | index i => .int i

/-- A complaint about the value at a place. -/
structure Issue where
  complaint : Complaint
  place : List Place
  input : Json

/-- The issues of one piece of data, which is called `title`. -/
structure Report where
  title : String
  issues : List Issue

namespace Issue

/-- The first bytes of a text that make whole characters, at most `count`. -/
def headBytes (count : Nat) : List Char → List Char
  | [] => []
  | c :: cs => if c.utf8Size ≤ count then c :: headBytes (count - c.utf8Size) cs else []

/-- The written value, its middle left out when it is longer than fifty bytes. -/
def inputText (j : Json) : String :=
  let s := j.itemText
  if s.utf8ByteSize ≤ 50 then s
  else
    let cs := s.toList
    String.ofList (headBytes 25 cs) ++ "..." ++ String.ofList (headBytes 24 cs.reverse).reverse

/-- The place, its steps parted by points. -/
def placeText (place : List Place) : String :=
  ".".intercalate (place.map fun
    | .field name => name
    | .index i => toString i)

/-- The issue as data. Complaints about times go without words. -/
def toJson (i : Issue) : Json :=
  .obj ([("type", .str i.complaint.code), ("loc", .arr (i.place.map Place.toJson))] ++
    if i.complaint.isAboutTime then [] else [("msg", .str i.complaint.message)])

/-- What the issue says about the value. -/
def remark (i : Issue) : String :=
  "\n  " ++ i.complaint.message ++ " [type=" ++ i.complaint.code
    ++ ", input_value=" ++ inputText i.input ++ ", input_type=" ++ i.input.typeName ++ "]"

/-- The place of the issue on a line of its own, unless it is the whole, and the
remark. -/
def text (i : Issue) : String :=
  (if i.place.isEmpty then "" else "\n" ++ placeText i.place) ++ i.remark

/-- Where complaints of this kind are explained. -/
def reference (i : Issue) : String :=
  "\n    For further information visit https://errors.pydantic.dev/2.14/v/" ++ i.complaint.code

end Issue

namespace Report

/-- The first line of a report. -/
def heading (r : Report) : String :=
  toString r.issues.length
    ++ (if r.issues.length = 1 then " validation error" else " validation errors")
    ++ " for " ++ r.title

def text (r : Report) : String :=
  r.heading ++ String.join (r.issues.map fun i => i.text ++ i.reference)

/-- The first issue in words, without its reference. -/
def summary (r : Report) : String := r.heading ++ String.join (r.issues.take 1 |>.map Issue.text)

end Report

end Nurture.Validation
