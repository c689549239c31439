import PoolClient.Url.Domain
import PoolClient.Url.Ipv6
import PoolClient.Url.Percent
/-!
# Hosts

The host of a web address is an IPv6 address in brackets, an IPv4 address, or a domain name
(`host?`). In a URL of an unknown scheme the host is opaque: only a few characters may not stand
in it (`isOpaqueHost`).
-/

namespace PoolClient.Url

open Text

/-- The host of a web address. -/
inductive Host where
  | name (text : List Char)
  | ipv4 (address : Nat)
  | ipv6 (pieces : List Nat)
  deriving DecidableEq, Repr

/-- The text of a host, without brackets. -/
def Host.text : Host → List Char
  | .name text => text
  | .ipv4 address => ipv4Text address
  | .ipv6 pieces => ipv6Text pieces

/-- The address between brackets, after the one that opens. -/
def bracketed? (cs : List Char) : Option (List Nat) :=
  match cs.reverse with
  | ']' :: inner => ipv6? inner.reverse
  | _ => none

/-- The host that a text stands for. -/
def host? : List Char → Option Host
  | '[' :: rest => (bracketed? rest).map .ipv6
  | cs =>
    match (Utf8.strict? (unescaped cs)).bind asciiDomain? with
    | none => none
    | some name =>
      if name.isEmpty then none
      else if endsInNumber name then (ipv4? name).map .ipv4
      else some (.name name)

/-- Whether a text is a host of an unknown scheme. -/
def isOpaqueHost : List Char → Bool
  | '[' :: rest => (bracketed? rest).isSome
  | cs => !cs.any ['\x00', ' ', '#', '/', ':', '<', '>', '?', '@', '[', '\\', ']', '^', '|'].contains

end PoolClient.Url
