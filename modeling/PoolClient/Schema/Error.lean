import PoolClient.Message.Error
import PoolClient.Wire.Value
/-!
# Why a value does not fit

A `CodecError` says which value did not fit its type, by a label, and how. Labels grow with
`childLabel` from the place of the whole value to the part at fault.
-/

namespace PoolClient.Schema

/-- What a type asks of a value. -/
inductive Expectation where
  | string | integer | double | boolean | dateTime | array | struct
  deriving DecidableEq, Repr

/-- The name of an expectation in messages. -/
def Expectation.name : Expectation → String
  | .string => "string"
  | .integer => "integer"
  | .double => "double"
  | .boolean => "boolean"
  | .dateTime => "dateTime.iso8601"
  | .array => "array"
  | .struct => "struct"

/-- How a value fails to fit. -/
inductive Misfit where
  | typeMismatch (expected : Expectation) (found : ValueType)
  | integerOutOfRange (digits : String)
  | invalidInteger (text : String)
  | invalidFloat (text : String)
  | nonFiniteFloat (x : Float)
  | invalidTimestamp (text : String)
  | unexpectedResult (display : String)
  | unknownLabel (text : String)
  | malformedValue (cause : MessageError)
  deriving DecidableEq, Repr

/-- A value that does not fit, named by a label. -/
structure CodecError where
  label : String
  misfit : Misfit
  deriving DecidableEq, Repr

/-- The wording of a misfit. -/
def Misfit.message : Misfit → String
  | .typeMismatch expected found => "expected " ++ expected.name ++ ", found " ++ found.name
  | .integerOutOfRange digits =>
    "integer " ++ digits ++ " is outside the signed 64-bit range"
  | .invalidInteger text => Text.quoted text ++ " is not a decimal integer"
  | .invalidFloat text => Text.quoted text ++ " is not a floating point number"
  | .nonFiniteFloat x =>
    Number.doubleText x ++ " cannot be represented as an XML-RPC double"
  | .invalidTimestamp text => Text.quoted text ++ " is not an ISO-8601 timestamp"
  | .unexpectedResult display => "expected nil, found " ++ display
  | .unknownLabel text => "unrecognised label " ++ Text.quoted text
  | .malformedValue cause => "malformed serialized value: " ++ cause.message

/-- The wording of an error. -/
def CodecError.message (e : CodecError) : String :=
  e.label ++ ": " ++ e.misfit.message

/-- A value of the wrong type. -/
def CodecError.mismatch (label : String) (expected : Expectation) (found : Value) : CodecError :=
  ⟨label, .typeMismatch expected found.type⟩

/-- The label of a part. A point joins it to the whole, unless the whole has no label, ends in a
space, or the part is in brackets. -/
def childLabel (label segment : String) : String :=
  if label.isEmpty || label.toList.getLast? == some ' ' || segment.toList.head? == some '[' then
    label ++ segment
  else label ++ "." ++ segment

/-- The label of the item at `i`. -/
def itemLabel (label : String) (i : Nat) : String :=
  childLabel label ("[" ++ Number.naturalText i ++ "]")

/-- The label of the entry called `name`. -/
def entryLabel (label name : String) : String :=
  childLabel label ("[" ++ name ++ "]")

/-- The label of a field of the record with the given title. -/
def fieldLabel (label title name : String) : String :=
  childLabel label (title ++ "." ++ name)

end PoolClient.Schema
