import PoolClient.Number.Numeral
/-!
# Endpoints

An `Endpoint` says where the interface of a pool is served. `Endpoint.url` writes it as a URL,
and `Endpoint.withHost` moves it to another host, whose address may bring a port of its own
(`splitAddress`).
-/

namespace PoolClient

open Number

/-- Where the interface is served. -/
structure Endpoint where
  host : String
  port : Nat
  tls : Bool
  path : String
  deriving DecidableEq, Repr, Inhabited

namespace Endpoint

/-- The endpoint at the root path. -/
def new (host : String) (port : Nat) (tls : Bool) : Endpoint :=
  ⟨host, port, tls, "/"⟩

/-- The usual port of a scheme. -/
def defaultPort (tls : Bool) : Nat :=
  if tls then 443 else 80

/-- The endpoint of a host at the usual port. -/
def ofHost (host : String) (tls : Bool) : Endpoint :=
  new host (defaultPort tls) tls

/-- The endpoint at another path, which begins with a slash. -/
def withPath (e : Endpoint) (path : String) : Endpoint :=
  { e with path := if path.toList.head? == some '/' then path else "/" ++ path }

/-- The scheme of the URL. -/
def scheme (e : Endpoint) : String :=
  if e.tls then "https" else "http"

/-- The host in a URL. An address that holds colons stands in brackets. -/
def urlHost (host : String) : String :=
  if host.toList.contains ':' && host.toList.head? != some '[' then "[" ++ host ++ "]" else host

/-- The URL of the endpoint. -/
def url (e : Endpoint) : String :=
  e.scheme ++ "://" ++ urlHost e.host ++ ":" ++ naturalText e.port ++ e.path

/-! ## Moving to another host -/

/-- A port number, perhaps with a plus. -/
def port? (cs : List Char) : Option Nat :=
  natural? 65535 cs

/-- What stands before and after the first `mark`. -/
def splitFirst (mark : Char) (cs : List Char) : Option (List Char × List Char) :=
  match cs.dropWhile (· != mark) with
  | _ :: rest => some (cs.takeWhile (· != mark), rest)
  | [] => none

/-- An address without brackets: a port follows its only colon. An address with more colons is
a host as a whole, and so is one whose port is no number. -/
def splitPlain (cs : List Char) : List Char × Option Nat :=
  match splitFirst ':' cs with
  | some (host, rest) =>
    if rest.contains ':' then (cs, none)
    else
      match port? rest with
      | some port => (host, some port)
      | none => (cs, none)
  | none => (cs, none)

/-- Host and port of an address. A host in brackets may be followed by a colon and a port, and
anything else after the brackets is dropped. -/
def splitAddress (cs : List Char) : List Char × Option Nat :=
  match cs with
  | '[' :: rest =>
    match splitFirst ']' rest with
    | some (host, ':' :: port) => (host, port? port)
    | some (host, _) => (host, none)
    | none => splitPlain cs
  | cs => splitPlain cs

/-- The same endpoint on another host. Scheme and path stay, and so does the port unless the
address brings one. -/
def withHost (e : Endpoint) (address : String) : Endpoint :=
  let (host, port) := splitAddress address.toList
  { e with host := String.ofList host, port := port.getD e.port }

end Endpoint

end PoolClient
