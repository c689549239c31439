import PoolClient.Markup.Document
import PoolClient.Text.Quoted
/-!
# Why a message cannot be read

`MessageError` names the causes, from broken markup to content that its element does not
allow, and `MessageError.message` is their wording.
-/

namespace PoolClient

/-- The elements whose text must have a form of its own. -/
inductive ScalarKind where
  | int | double | boolean
  deriving DecidableEq, Repr

/-- The element of a scalar kind. -/
def ScalarKind.name : ScalarKind → String
  | .int => "int"
  | .double => "double"
  | .boolean => "boolean"

/-- Why a text is no message or value. -/
inductive MessageError where
  | malformed
  | unexpectedEnd
  | unexpectedElement (expected found : String)
  | missingElement (name : String)
  | ambiguousValue
  | unknownType (name : String)
  | invalidScalar (kind : ScalarKind) (text : String)
  | invalidBase64
  deriving DecidableEq, Repr

/-- Broken markup, as a cause. -/
def MessageError.ofMarkup : Markup.MarkupError → MessageError
  | .malformed => .malformed
  | .unexpectedEnd => .unexpectedEnd

/-- The wording of a cause. -/
def MessageError.message : MessageError → String
  | .malformed => "malformed XML"
  | .unexpectedEnd => "document ended before the root element was closed"
  | .unexpectedElement expected found => "expected <" ++ expected ++ ">, found <" ++ found ++ ">"
  | .missingElement name => "missing <" ++ name ++ "> element"
  | .ambiguousValue => "<value> holds more than one typed element"
  | .unknownType name => "unknown value type <" ++ name ++ ">"
  | .invalidScalar kind text => "invalid <" ++ kind.name ++ "> content " ++ Text.quoted text
  | .invalidBase64 => "invalid base64 payload"

end PoolClient
