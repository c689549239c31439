import PoolClient.Failure.Error
/-!
# Configurations

A `Config` is what the configuration file of a client says, and `Config.writing` is the text of
such a file. `ConfigError` says why a file cannot be used.
-/

namespace PoolClient

/-- How the certificate of a server is checked: against the usual roots, against roots of one's
own, or not at all. -/
inductive TlsMode where
  | strict
  | customRoots
  | insecure
  deriving DecidableEq, Repr, Inhabited

/-- The name of a mode in a configuration. -/
def TlsMode.name : TlsMode → String
  | .strict => "strict"
  | .customRoots => "custom-roots"
  | .insecure => "insecure"

/-- The mode with a name. -/
def TlsMode.ofName? (name : String) : Option TlsMode :=
  [.strict, .customRoots, .insecure].find? (·.name == name)

/-- How a configuration wants certificates checked, and the files with roots of its own. -/
structure TlsConfig where
  mode : TlsMode
  certificates : List String
  deriving DecidableEq, Repr, Inhabited

/-- The user that a configuration names. -/
structure LoginConfig where
  username : String
  password : String
  originator : Option String
  deriving DecidableEq, Repr

/-- What a configuration file says. -/
structure Config where
  url : String
  deadlineSeconds : Option Nat
  tls : TlsConfig
  login : Option LoginConfig
  deriving DecidableEq, Repr

/-- Why a configuration cannot be used. -/
inductive ConfigError where
  | unreadable
  | malformed
  | badUrl (url : String)
  | missingCertificate (path : String)
  | noRoots
  deriving DecidableEq, Repr

/-- The wording of a configuration error, if it has one. -/
def ConfigError.message? : ConfigError → Option String
  | .noRoots => some "TLS mode custom-roots requires at least one entry in ca_certs"
  | _ => none

theorem TlsMode.ofName?_name (m : TlsMode) : TlsMode.ofName? m.name = some m := by
  cases m <;> rfl

end PoolClient
