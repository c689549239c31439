import PoolClient.Api.ErrorCode
import PoolClient.Number.Numeral
import PoolClient.Text.Blank
import PoolClient.Wire.Value
/-!
# Server errors

A server refuses a call with a `ServerError`: a symbolic code and its parameters. It arrives as
a list of texts with the code in front, on one of three routes: as the payload of a fault
(`ofFault`), in a failure envelope (`ofEnvelope`), or as the error of a task (`ofInfo`).
-/

namespace PoolClient

open Number Text

/-- An error reported by the server. A fault may come with a number of its own. -/
structure ServerError where
  code : String
  params : List String
  faultCode : Option Int64
  deriving DecidableEq, Repr

namespace ServerError

/-- An error with a code and parameters. -/
def new (code : String) (params : List String) : ServerError :=
  ⟨code, params, none⟩

/-- The error that a list of texts describes, the code first. -/
def ofInfo : List String → ServerError
  | [] => new Api.internalError []
  | code :: params => new code params

/-- A part of a description. What is no text is shown rather than refused, so that nothing of
the report is lost. -/
def partText : Value → String
  | .string s => s
  | v => v.display

/-- The error that a wire value describes: a list, or the code alone. -/
def ofDescription : Value → ServerError
  | .array items => ofInfo (items.map partText)
  | .string code => new code []
  | v => new Api.internalError ["unrecognised error description: " ++ v.display]

/-- The number of a fault. -/
def faultNumber : Option Value → Option Int64
  | some (.int n) => some n
  | some (.string s) => int64? (trim s.toList)
  | _ => none

/-- The error of a fault. -/
def ofFault : Value → ServerError
  | .struct members =>
    let error := match Value.member? members "faultString" with
      | some description => ofDescription description
      | none => new Api.internalError []
    { error with faultCode := faultNumber (Value.member? members "faultCode") }
  | v => ofDescription v

/-- The error of a failure envelope. -/
def ofEnvelope : Option Value → ServerError
  | some description => ofDescription description
  | none => new Api.internalError []

/-- The wording of an error. -/
def message (e : ServerError) : String :=
  "server error " ++ e.code ++
    if e.params.isEmpty then "" else " [" ++ String.intercalate ", " e.params ++ "]"

end ServerError

end PoolClient
