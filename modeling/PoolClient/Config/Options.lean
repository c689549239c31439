import PoolClient.Certificate.Armour
import PoolClient.Certificate.Der
import PoolClient.Config.Config
import PoolClient.Session.Program
import PoolClient.Url.Endpoint
/-!
# Options

`Config.options` turns a configuration into what a client is made from: it reads the files with
certificates and then the URL. It works for contents of files of any type, since only
`Options.connect` looks at what the files hold.
-/

namespace PoolClient

open Time

/-- How the certificate of a server is checked. Roots of one's own are given by the contents of
their files. -/
inductive TlsPolicy (File : Type) where
  | strict
  | customRoots (files : List File)
  | insecure
  deriving DecidableEq, Repr

/-- What a configuration gives. -/
structure Options (File : Type) where
  endpoint : Endpoint
  deadline : Option Duration
  tls : TlsPolicy File
  deriving DecidableEq, Repr

/-- What a client is made from. -/
abbrev ClientOptions := Options String

namespace Config

variable {File : Type}

/-- The endpoint of a configuration. -/
def endpoint (c : Config) : Except ConfigError Endpoint :=
  (Endpoint.parse c.url).mapError fun _ => .badUrl c.url

/-- What a file holds. -/
def content (file? : String → Option File) (path : String) : Except ConfigError File :=
  match file? path with
  | some content => .ok content
  | none => .error (.missingCertificate path)

/-- The contents of some files, up to the first that is missing. -/
def contents (file? : String → Option File) (paths : List String) :
    Except ConfigError (List File) :=
  paths.mapM (content file?)

/-- How certificates are checked. -/
def policy (file? : String → Option File) (t : TlsConfig) :
    Except ConfigError (TlsPolicy File) :=
  match t.mode with
  | .strict => .ok .strict
  | .insecure => .ok .insecure
  | .customRoots =>
    if t.certificates.isEmpty then .error .noRoots
    else (contents file? t.certificates).map .customRoots

/-- The options that a configuration gives. -/
def options (file? : String → Option File) (c : Config) : Except ConfigError (Options File) :=
  match policy file? c.tls with
  | .error e => .error e
  | .ok tls =>
    match c.endpoint with
    | .error e => .error e
    | .ok endpoint => .ok ⟨endpoint, c.deadlineSeconds.map Duration.ofSeconds, tls⟩

end Config

/-- Whether a file holds certificates only, or none. -/
def holdsCertificates (file : String) : Bool :=
  match Certificate.sections? "CERTIFICATE" file with
  | some found => found.all Certificate.isCertificate
  | none => false

/-- The state of a new client, before any login. -/
def Options.connect (o : ClientOptions) : Except TransportError Shared :=
  match o.tls with
  | .customRoots files =>
    if files.all holdsCertificates then .ok (.initial o.endpoint o.deadline)
    else .error .certificate
  | _ => .ok (.initial o.endpoint o.deadline)

end PoolClient
