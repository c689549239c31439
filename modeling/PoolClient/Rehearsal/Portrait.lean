import PoolClient.Rehearsal.Stage
/-!
# Portraits

One-line descriptions of a session, of its client and of the scripted pool, for logs.
-/

namespace PoolClient.Rehearsal

open Time

/-- Fields of a portrait between braces. -/
def braced (name : String) (fields : List String) : String :=
  name ++ " \x7b " ++ String.intercalate ", " fields ++ " \x7d"

/-- A value that may be missing. -/
def optional : Option String → String
  | some s => "Some(" ++ s ++ ")"
  | none => "None"

/-- A truth value. -/
def truth (b : Bool) : String :=
  if b then "true" else "false"

/-- The portrait of an endpoint. -/
def endpointPortrait (e : Endpoint) : String :=
  braced "Endpoint" ["host: " ++ Text.quoted e.host, "port: " ++ Number.naturalText e.port,
    "tls: " ++ truth e.tls, "path: " ++ Text.quoted e.path]

/-- The portrait of a session. -/
def sessionPortrait (s : Shared) (h : Session) : String :=
  let l := s.login h.login
  braced "Session" ["endpoint: " ++ endpointPortrait s.client.endpoint,
    "session_ref: " ++ optional (l.ref.map fun r => "SessionRef(" ++ Text.quoted r ++ ")"),
    "api_version: " ++ optional (l.apiVersion.map ApiVersion.identifier),
    "timeout: " ++ optional (h.deadline.map Duration.text), ".."]

/-- The portrait of a client. -/
def clientPortrait (c : Client) : String :=
  braced "RpcClient" ["endpoint: " ++ endpointPortrait c.endpoint,
    "generation: " ++ Number.naturalText c.generation,
    "timeout: " ++ optional (c.deadline.map Duration.text), ".."]

/-- The portrait of the scripted pool, by the number of calls it has answered. -/
def poolPortrait (answered : Nat) : String :=
  braced "MockTransport" ["calls: " ++ Number.naturalText answered, ".."]

end PoolClient.Rehearsal
