import PoolClient.Endpoint
import PoolClient.Failure.Error
import PoolClient.Url.Location
/-!
# Endpoints from text

An endpoint is given by a web address. User, query and fragment of the address are dropped.
-/

namespace PoolClient

open Url

/-- The endpoint that a URL names. Without a port it is the usual one of the scheme. -/
def Endpoint.parse (text : String) : Except EndpointError Endpoint :=
  match location? text with
  | none => .error .unparsable
  | some (.other scheme) => .error (.unsupportedScheme text (String.ofList scheme))
  | some (.web tls host port path _) =>
    .ok ⟨String.ofList host.text, port.getD (defaultPort tls), tls, String.ofList path⟩

end PoolClient
