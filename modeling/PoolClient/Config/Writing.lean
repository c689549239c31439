import PoolClient.Config.Config
import PoolClient.Toml.Writing
/-!
# Writing configurations

What a configuration does not give is left out; the mode of checking certificates is always
written.
-/

namespace PoolClient.Config

open Toml

/-- The line of an entry that may be missing. -/
def optionalLine (name : String) (value : Option String) : List String :=
  (value.map (entryLine name)).toList

/-- The lines about certificates. -/
def tlsLines (t : TlsConfig) : List String :=
  entryLine "mode" (textLiteral t.mode.name) ::
    if t.certificates.isEmpty then [] else [entryLine "ca_certs" (textsLiteral t.certificates)]

/-- The lines about the user. -/
def loginLines (l : LoginConfig) : List String :=
  [entryLine "username" (textLiteral l.username), entryLine "password" (textLiteral l.password)] ++
    optionalLine "originator" (l.originator.map textLiteral)

/-- The text of a configuration file. -/
def writing (c : Config) : String :=
  String.join
    (entryLine "url" (textLiteral c.url) ::
      optionalLine "timeout_secs" (c.deadlineSeconds.map Number.naturalText) ++
      [tableText "tls" (tlsLines c.tls)] ++
      (c.login.map fun l => tableText "login" (loginLines l)).toList)

end PoolClient.Config
