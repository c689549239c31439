import PoolClient.Failure.ServerError
import PoolClient.Schema.Error
import PoolClient.Time.Duration
/-!
# Errors

A call fails in one of three ways: it could not be carried to the server and back
(`TransportError`), a value did not have the expected shape (`CodecError`), or the server
refused (`ServerError`). Beyond these, a session may not be logged in, and a task may have been
cancelled.
-/

namespace PoolClient

open Time

/-- Why a text is no endpoint. -/
inductive EndpointError where
  | unparsable
  | unsupportedScheme (text scheme : String)
  deriving DecidableEq, Repr

/-- Why a call could not be carried to the server and back. -/
inductive TransportError where
  | http
  | timeout (method : String) (deadline : Duration)
  | status (code : Nat)
  | protocol (cause : MessageError)
  | tooManyRedirects (master : String)
  | invalidEndpoint (cause : EndpointError)
  | certificate
  deriving DecidableEq, Repr

/-- Why an operation failed. -/
inductive Error where
  | transport (e : TransportError)
  | codec (e : Schema.CodecError)
  | server (e : ServerError)
  | notLoggedIn
  | taskCancelled (task : String)
  deriving DecidableEq, Repr

/-- The wording of a bad endpoint, if it has one. -/
def EndpointError.message? : EndpointError → Option String
  | .unparsable => none
  | .unsupportedScheme text scheme =>
    some ("invalid endpoint: " ++ text ++ ": unsupported scheme " ++ Text.quoted scheme)

/-- The wording of a transport error, if it has one. -/
def TransportError.message? : TransportError → Option String
  | .http => none
  | .timeout method deadline => some ("call to " ++ method ++ " timed out after " ++ deadline.text)
  | .status code => some ("server answered with HTTP status " ++ Number.naturalText code)
  | .protocol _ => none
  | .tooManyRedirects master =>
    some ("redirected more than once; last master reported was " ++ master)
  | .invalidEndpoint cause => cause.message?
  | .certificate => none

/-- The wording of an error, if it has one. -/
def Error.message? : Error → Option String
  | .transport e => e.message?
  | .codec e => some e.message
  | .server e => some e.message
  | .notLoggedIn => some "session is not logged in"
  | .taskCancelled task => some ("task " ++ task ++ " was cancelled")

/-- Whether the server reported the code `code`. -/
def Error.isServerCode (code : String) : Error → Bool
  | .server e => e.code == code
  | _ => false

end PoolClient
