import PoolClient.Message.Envelope
import PoolClient.Session.Program
import PoolClient.Text.Utf8
import PoolClient.Url.Location
/-!
# HTTP exchanges

A call is posted to the URL of its endpoint. `Call.requestLine?` gives the first line of the
request, for the calls that can be sent at all, and `outcome` says what the status and the body
of the answer mean to the caller.
-/

namespace PoolClient

open Url Text

namespace Http

/-- Whether a host may be named in a request. -/
def isNameable : Host → Bool
  | .name text => !text.any ['"', '`', '\x7b', '\x7d'].contains
  | _ => true

/-- What a request to a URL asks for: path and query. -/
def target? (url : String) : Option (List Char) :=
  match location? url with
  | some (.web _ host _ path query) =>
    if isNameable host then
      some (match query with
        | some query => path ++ '?' :: query
        | none => path)
    else none
  | _ => none

/-- The result that a response document brings. -/
def outcomeOfText (text : String) : Outcome Value :=
  match parseResponse text with
  | .error cause => .error (.transport (.protocol cause))
  | .ok response => response.result.mapError .server

/-- Whether a status may end an exchange. Those below 200 announce another, except for the
change of protocols. -/
def isFinalStatus (status : Nat) : Bool :=
  status == 101 || (200 ≤ status && status ≤ 999)

/-- What an answer means. Only the status 200 brings a response document, and whatever is
malformed in its encoding is replaced before it is read. -/
def outcome (status : Nat) (body : List UInt8) : Outcome Value :=
  if status = 200 then outcomeOfText (String.ofList (Utf8.lossy body))
  else if isFinalStatus status then .error (.transport (.status status))
  else .error (.transport .http)

end Http

/-- The first line of the request that carries a call, if it can be sent. -/
def Call.requestLine? (c : Call) : Option String :=
  (Http.target? c.endpoint.url).map fun target => "POST " ++ String.ofList target ++ " HTTP/1.1"

/-- The type of content that a request carries. -/
def Call.contentType : String :=
  "text/xml"

end PoolClient
