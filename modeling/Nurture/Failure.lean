import Nurture.Calendar.Iso
import Nurture.Calendar.Span
import Nurture.Calendar.ZoneTable
import Nurture.Funnel.SendTime
import Nurture.Validation.Issue

/-!
  Failures

  Everything that can stop an operation, as causes. `Failure.message` is the
  wording of each cause and `Failure.category` says which kind of fault it is.
-/

namespace Nurture

/-- How two times were to be related. -/
inductive Calendar.Relation where
  | compared
  | subtracted
  deriving DecidableEq, Repr

/-- Why a part of a message cannot be written as a header. -/
inductive HeaderFault where
  /-- The value holds what looks like another header. -/
  | embedded (value : String)
  /-- The header as written runs on behind its line. -/
  | broken (written : String)
  deriving DecidableEq, Repr

/-- Why an operation stopped. -/
inductive Failure where
  /-- Data did not pass its check. -/
  | invalid (report : Validation.Report)
  /-- A time cannot be reckoned. -/
  | overflow (cause : Calendar.Overflow)
  /-- Amounts of units make no span of time. -/
  | span (cause : Calendar.Span.Fault)
  /-- A time whose distance from UTC is unknown was related to one where it is known. -/
  | unrelated (relation : Calendar.Relation)
  | zone (cause : Calendar.ZoneFault)
  | notTime (text : String) (cause : Calendar.Iso.Fault)
  /-- What is no text was to be read as a time. -/
  | notTimeText
  | sendTime (cause : SendTime.Fault)
  | noSuchHour
  | noSuchMinute
  | notInteger (text : String) (cause : Numeral.Fault)
  | notNumber (text : String)
  /-- A value, mostly a name, is no status of executions. -/
  | unknownStatus (value : Json)
  /-- Fields of a record of this kind are not to be updated. -/
  | lockedFields (kind : String) (keys : List String)
  /-- A channel has no such backend. -/
  | unknownBackend (channel name : String)
  /-- The cloud provider's credentials are missing. -/
  | cloudUnconfigured
  /-- Nodes of this kind cannot be executed. -/
  | noHandler (kind : String)
  /-- A value is refused, in the given words. -/
  | refused (reason : String)
  /-- A part of the machinery broke, in its own words. -/
  | broken (reason : String)
  /-- A message could not be delivered. -/
  | undelivered (reason : String)
  /-- An answer of a provider is not JSON. -/
  | notJson (reason : String)
  /-- A value of this type was asked for a part that it does not have. -/
  | absent (typeName part : String)
  | notIterable (typeName : String)
  | noLength (typeName : String)
  /-- A value of this type has no beginning that could be cut off. -/
  | noSlice (typeName : String)
  /-- A value of this type takes no other members. -/
  | noItems (typeName : String)
  /-- A value of this type is no number of units of time. -/
  | notAmount (unit typeName : String)
  /-- A text or a list is shorter than was expected. -/
  | tooShort (ofText : Bool)
  /-- A value of this type cannot be put behind a text. -/
  | notJoinable (typeName : String)
  /-- A call lacks arguments. -/
  | missingArguments (call : String) (names : List String)
  /-- A call takes fewer arguments. -/
  | tooManyArguments (call : String) (least most given : Nat)
  | unknownArgument (call name : String)
  | repeatedArgument (call name : String)
  /-- A text with halves of pairs was to be encoded. -/
  | notEncodable (cause : Text.EncodingFault)
  /-- A text with other characters was to be encoded in ASCII. -/
  | notAscii (cause : Text.EncodingFault)
  /-- A value of this type was to be a header of a request. -/
  | notHeader (typeName : String)
  /-- A value of this type was to be the body of a mail. -/
  | notBody (typeName : String)
  /-- Data with a number that has no digits was to be written as JSON. -/
  | notFinite
  /-- A text is no address. -/
  | badAddress (reason : String)
  /-- Data is nested too deeply to be written. -/
  | tooDeep
  /-- A header of a message cannot be written. -/
  | header (cause : HeaderFault)
  /-- A row would violate a constraint of its table. -/
  | constraint
  /-- A column was given a value that it cannot express. -/
  | statement
  /-- A column was given a value of a type that it cannot hold. -/
  | binding
  /-- A column was given an integer that it cannot hold. -/
  | columnOverflow
  /-- A row cannot be kept at a time that no UTC clock shows. -/
  | noRowTime

/-- The kinds of faults. -/
inductive Failure.Category where
  | validation
  | value
  | overflow
  | zone
  | machinery
  | delivery
  | notJson
  | absence
  | kind
  | constraint
  | statement
  | binding
  | rowData
  | encoding
  | index
  | address
  | headerParse
  | headerWrite
  deriving DecidableEq, Repr

/-- A span of time as days, seconds and microseconds, those that are not zero. -/
def Calendar.spanText (span : Int) : String :=
  let rest := span % Calendar.day
  let part (name : String) (n : Int) : List String :=
    if n = 0 then [] else [name ++ "=" ++ toString n]
  let parts :=
    part "days" (span / Calendar.day) ++ part "seconds" (rest / Calendar.second)
      ++ part "microseconds" (rest % Calendar.second)
  "datetime.timedelta(" ++ ", ".intercalate parts ++ ")"

/-- A reading of a text as a time that failed, in words. -/
def Calendar.Iso.Fault.message (text : String) : Calendar.Iso.Fault → String
  | malformed => "Invalid isoformat string: " ++ Text.quoted text
  | offset span =>
    "offset must be a timedelta strictly between -timedelta(hours=24) and timedelta(hours=24), not "
      ++ Calendar.spanText span ++ "."
  | year n => "year " ++ toString n ++ " is out of range"
  | month => "month must be in 1..12"
  | day => "day is out of range for month"
  | hour => "hour must be in 0..23"
  | minute => "minute must be in 0..59"
  | second => "second must be in 0..59"

def Calendar.Overflow.message : Calendar.Overflow → String
  | date => "date value out of range"
  | days count => "days=" ++ toString count ++ "; must have magnitude <= 999999999"
  | word => "Python int too large to convert to C int"

def Calendar.Span.Fault.message : Calendar.Span.Fault → String
  | overflow cause => cause.message
  | undefined => "cannot convert float NaN to integer"
  | infinite => "cannot convert float infinity to integer"

/-- What was to be done with two times, in a word. -/
def Calendar.Relation.verb : Calendar.Relation → String
  | compared => "compare"
  | subtracted => "subtract"

/-- A text that cannot be encoded, in words: by which code, and why. -/
def Text.EncodingFault.message (code reason : String) (f : Text.EncodingFault) : String :=
  "'" ++ code ++ "' codec can't encode character"
    ++ (if f.stop = f.start + 1 then
          " '" ++ String.ofList (Text.escapedCode f.code) ++ "' in position " ++ toString f.start
        else "s in position " ++ toString f.start ++ "-" ++ toString (f.stop - 1))
    ++ ": " ++ reason

def HeaderFault.message : HeaderFault → String
  | embedded value => "header value appears to contain an embedded header: " ++ Text.quoted value
  | broken written => "folded header contains newline: " ++ Text.quoted written

/-- Names in quotes, the last one behind an "and". -/
def quotedNames : List String → String
  | [] => ""
  | [a] => Text.quoted a
  | [a, b] => Text.quoted a ++ " and " ++ Text.quoted b
  | names =>
    ", ".intercalate (names.dropLast.map Text.quoted) ++ ", and "
      ++ Text.quoted (names.getLast?.getD "")

/-- Arguments that a call lacks, in words. -/
def missingText (call : String) (names : List String) : String :=
  call ++ "() missing " ++ toString names.length ++ " required positional argument"
    ++ (if names.length = 1 then "" else "s") ++ ": " ++ quotedNames names

def Calendar.ZoneFault.message : Calendar.ZoneFault → String
  | absolute key => "ZoneInfo keys may not be absolute paths, got: " ++ key
  | notNormal key => "ZoneInfo keys must be normalized relative paths, got: " ++ key
  | outside key => "ZoneInfo keys must refer to subdirectories of TZPATH, got: " ++ key
  | unknown key => "No time zone found with key " ++ key
  | null => "embedded null byte"

/-- A text that is no integer, in words; of a long one the beginning is shown. -/
def Numeral.Fault.message (text : String) : Numeral.Fault → String
  | malformed =>
    "invalid literal for int() with base 10: " ++ String.ofList ((Text.quoted text).toList.take 200)
  | tooLong digits =>
    "Exceeds the limit (" ++ toString maxDigits
      ++ " digits) for integer string conversion: value has " ++ toString digits
      ++ " digits; use sys.set_int_max_str_digits() to increase the limit"

def SendTime.Fault.message : SendTime.Fault → String
  | tooFewParts => "not enough values to unpack (expected 2, got 1)"
  | tooManyParts => "too many values to unpack (expected 2)"
  | notInteger part fault => fault.message part

namespace Failure

def message : Failure → String
  | invalid report => report.text
  | overflow cause => cause.message
  | span cause => cause.message
  | unrelated relation =>
    "can't " ++ relation.verb ++ " offset-naive and offset-aware datetimes"
  | zone cause => cause.message
  | notTime text cause => cause.message text
  | notTimeText => "fromisoformat: argument must be str"
  | sendTime cause => cause.message
  | noSuchHour => "hour must be in 0..23"
  | noSuchMinute => "minute must be in 0..59"
  | notInteger text cause => cause.message text
  | notNumber text => "could not convert string to float: " ++ Text.quoted text
  | unknownStatus value => value.itemText ++ " is not a valid ExecutionStatus"
  | lockedFields kind keys =>
    "Cannot update " ++ kind ++ " fields: " ++ (Json.ofTexts keys).itemText
  | unknownBackend channel name => "Unknown " ++ channel ++ " backend: " ++ name
  | cloudUnconfigured => "WA_PHONE_NUMBER_ID and WA_ACCESS_TOKEN must be configured"
  | noHandler kind => "Node type " ++ kind ++ " not yet implemented"
  | refused reason => reason
  | broken reason => reason
  | undelivered reason => reason
  | notJson reason => reason
  | absent typeName part =>
    Text.quoted typeName ++ " object has no attribute " ++ Text.quoted part
  | notIterable typeName => Text.quoted typeName ++ " object is not iterable"
  | noLength typeName => "object of type " ++ Text.quoted typeName ++ " has no len()"
  | noSlice typeName =>
    if typeName = "dict" then "unhashable type: 'slice'"
    else Text.quoted typeName ++ " object is not subscriptable"
  | noItems typeName => Text.quoted typeName ++ " object does not support item assignment"
  | notAmount unit typeName =>
    "unsupported type for timedelta " ++ unit ++ " component: " ++ typeName
  | tooShort ofText => (if ofText then "string" else "list") ++ " index out of range"
  | notJoinable typeName => "can only concatenate str (not \"" ++ typeName ++ "\") to str"
  | missingArguments call names => missingText call names
  | tooManyArguments call least most given =>
    call ++ "() takes " ++ (if least = most then "" else "from " ++ toString least ++ " to ")
      ++ toString most ++ " positional arguments but " ++ toString given ++ " were given"
  | unknownArgument call name =>
    call ++ "() got an unexpected keyword argument " ++ Text.quoted name
  | repeatedArgument call name => call ++ "() got multiple values for argument " ++ Text.quoted name
  | notEncodable cause => cause.message "utf-8" "surrogates not allowed"
  | notAscii cause => cause.message "ascii" "ordinal not in range(128)"
  | notHeader typeName => "Header value must be str or bytes, not <class '" ++ typeName ++ "'>"
  | notBody typeName => "string payload expected: <class '" ++ typeName ++ "'>"
  | notFinite => "Out of range float values are not JSON compliant"
  | badAddress reason => reason
  | tooDeep => "Maximum serialization depth exceeded"
  | header cause => cause.message
  | constraint => "constraint failed"
  | statement => "statement error"
  | binding => "binding error"
  | columnOverflow => "Python int too large to convert to SQLite INTEGER"
  | noRowTime => "data error"

def category : Failure → Category
  | invalid _ => .validation
  | overflow _ | columnOverflow | span (.overflow _) | span .infinite => .overflow
  | zone (.unknown _) => .zone
  | zone _ | notTime .. | sendTime _ | noSuchHour | noSuchMinute | notInteger .. | notNumber _
  | unknownStatus _ | lockedFields .. | unknownBackend .. | cloudUnconfigured | noHandler _
  | refused _ | tooDeep | notFinite | span .undefined => .value
  | broken _ => .machinery
  | undelivered _ => .delivery
  | notJson _ => .notJson
  | absent .. => .absence
  | notIterable _ | noLength _ | noSlice _ | notJoinable _ | missingArguments ..
  | tooManyArguments .. | unknownArgument .. | repeatedArgument .. | unrelated _ | notHeader _
  | noItems _ | notBody _ | notAmount .. | notTimeText => .kind
  | tooShort _ => .index
  | constraint => .constraint
  | statement => .statement
  | binding => .binding
  | noRowTime => .rowData
  | notEncodable _ | notAscii _ => .encoding
  | badAddress _ => .address
  | header (.embedded _) => .headerParse
  | header (.broken _) => .headerWrite

/-- Whether a value that was given is at fault, and not the machinery. -/
def isValueFault (f : Failure) : Bool :=
  match f.category with
  | .validation | .value | .notJson | .encoding => true
  | _ => false

end Failure

end Nurture
