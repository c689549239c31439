import PoolClient.Failure.ServerError
import PoolClient.Message.Reading
/-!
# Envelopes

A response may wrap its result once more, in a structure of two members: `Status` with
`Success` and a `Value`, or `Status` with `Failure` and an `ErrorDescription`. `Response.result`
takes off this one layer. A structure with any other members is a result in its own right.
-/

namespace PoolClient

/-- What a structure of two members means as an envelope. -/
inductive Envelope where
  | success (value : Value)
  | failure (description : Value)
  deriving Repr

/-- The envelope that a value is, if it is one. -/
def Envelope.of? : Value → Option Envelope
  | .struct members =>
    if members.length = 2 then
      match (Value.member? members "Status").bind Value.text? with
      | some "Success" => (Value.member? members "Value").map .success
      | some "Failure" => (Value.member? members "ErrorDescription").map .failure
      | _ => none
    else none
  | _ => none

/-- The result of a call: the value, or the error that the server reported. -/
def Response.result : Response → Except ServerError Value
  | .fault v => .error (.ofFault v)
  | .success v =>
    match Envelope.of? v with
    | some (.success inner) => .ok inner
    | some (.failure description) => .error (.ofEnvelope (some description))
    | none => .ok v

end PoolClient
