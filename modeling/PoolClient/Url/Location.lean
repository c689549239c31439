import PoolClient.Text.Blank
import PoolClient.Url.Host
import PoolClient.Url.Path
/-!
# Locations

`location?` reads a URL. Of a web address it gives the parts a client needs; the other URLs are
only told apart from texts that are none, by their scheme.
-/

namespace PoolClient.Url

open Number Text

/-- What a URL points to. -/
inductive Location where
  | web (tls : Bool) (host : Host) (port : Option Nat) (path : List Char)
      (query : Option (List Char))
  | other (scheme : List Char)
  deriving DecidableEq, Repr

/-- The text without controls and spaces at its ends, and without tabs and line breaks. -/
def cleaned (cs : List Char) : List Char :=
  let outer (c : Char) : Bool := c.toNat ≤ 0x20
  (dropEndWhile outer (cs.dropWhile outer)).filter fun c => !(['\t', '\n', '\r'].contains c)

/-- The scheme, in lower case, and what follows its colon. -/
def splitScheme? (cs : List Char) : Option (List Char × List Char) :=
  let isPart (c : Char) : Bool := c.isAlphanum || c == '+' || c == '-' || c == '.'
  match cs.head?, cs.dropWhile isPart with
  | some c, ':' :: rest =>
    if c.isAlpha then some ((cs.takeWhile isPart).map Char.toLower, rest) else none
  | _, _ => none

/-! ## Authorities -/

/-- User, host and port of a URL, as they are written. -/
structure Authority where
  user : Option (List Char)
  host : List Char
  port : Option (List Char)
  deriving DecidableEq, Repr

/-- What stands before the first colon outside brackets, and what stands after it. -/
def splitPort : Bool → List Char → List Char × Option (List Char)
  | _, [] => ([], none)
  | inside, c :: rest =>
    if c == ':' && !inside then ([], some rest)
    else
      let (host, port) := splitPort (if c == '[' then true else if c == ']' then false else inside) rest
      (c :: host, port)

/-- What stands before the last at sign, and what stands after it. -/
def splitUser (cs : List Char) : Option (List Char) × List Char :=
  if cs.contains '@' then
    (some ((cs.reverse.dropWhile (· != '@')).drop 1).reverse,
      (cs.reverse.takeWhile (· != '@')).reverse)
  else (none, cs)

/-- The parts of an authority. -/
def authority (cs : List Char) : Authority :=
  let (user, rest) := splitUser cs
  let (host, port) := splitPort false rest
  ⟨user, host, port⟩

/-- The port number. Nothing after the colon means no port, and a backslash ends it. -/
def portNumber? (cs : List Char) : Option (Option Nat) :=
  let ds := cs.takeWhile Char.isDigit
  match cs.dropWhile Char.isDigit with
  | [] | '\\' :: _ =>
    if ds.isEmpty then some none
    else if natOfDigits ds ≤ 65535 then some (some (natOfDigits ds)) else none
  | _ => none

/-- The port of an authority, if it has one. -/
def Authority.portNumber? (a : Authority) : Option (Option Nat) :=
  match a.port with
  | none => some none
  | some cs => Url.portNumber? cs

/-- Whether a user is written out: neither name nor password may be empty alone. -/
def hasUser (user : List Char) : Bool :=
  !user.isEmpty && user != [':']

/-- Whether an authority is one of an unknown scheme. `ended` says that the URL ends with it. An
authority without a host has neither port nor user. -/
def Authority.isOpaque (a : Authority) (ended : Bool) : Bool :=
  isOpaqueHost a.host && a.portNumber?.isSome &&
    !(a.host.isEmpty && (a.port.isSome || a.user.any hasUser)) &&
    !(a.user == some [] && a.host.isEmpty && a.port.isNone && !ended)

/-! ## Reading -/

/-- Whether `c` ends the authority of a web address. -/
def endsAuthority (c : Char) : Bool :=
  isSeparator c || c == '?' || c == '#'

/-- Path and query of a web address. The fragment is dropped. -/
def pathAndQuery (cs : List Char) : List Char × Option (List Char) :=
  let cs := cs.takeWhile (· != '#')
  (pathText (cs.takeWhile (· != '?')),
    match cs.dropWhile (· != '?') with
    | _ :: query => some (escaped standsInQuery query)
    | [] => none)

/-- Host and port of a web address, and what follows them. -/
def webParts? (cs : List Char) : Option (Host × Option Nat × List Char) :=
  let cs := cs.dropWhile isSeparator
  let a := authority (cs.takeWhile (!endsAuthority ·))
  match host? a.host, a.portNumber? with
  | some host, some port => some (host, port, cs.dropWhile (!endsAuthority ·))
  | _, _ => none

/-- Whether what follows `file:` is well-formed: after two slashes stands a host, a drive letter,
or nothing. -/
def isFilePart : List Char → Bool
  | c :: d :: rest =>
    let host := rest.takeWhile (!endsAuthority ·)
    !(isSeparator c && isSeparator d) || host.isEmpty || isDriveLetter host || (host? host).isSome
  | _ => true

/-- Whether what follows the colon of an unknown scheme is well-formed. -/
def isOpaquePart : List Char → Bool
  | '/' :: '/' :: rest =>
    let ends (c : Char) : Bool := c == '/' || c == '?' || c == '#'
    (authority (rest.takeWhile (!ends ·))).isOpaque (rest.all (!ends ·))
  | _ => true

/-- What a URL points to. -/
def location? (text : String) : Option Location :=
  match splitScheme? (cleaned text.toList) with
  | none => none
  | some (scheme, rest) =>
    let name := String.ofList scheme
    if name == "http" || name == "https" then
      (webParts? rest).map fun (host, port, rest) =>
        let (path, query) := pathAndQuery rest
        .web (name == "https") host port path query
    else
      let wellFormed :=
        if name == "ws" || name == "wss" || name == "ftp" then (webParts? rest).isSome
        else if name == "file" then isFilePart rest
        else isOpaquePart rest
      if wellFormed then some (.other scheme) else none

end PoolClient.Url
