import PoolClient.Config.Config
import PoolClient.Toml.Reading
/-!
# Reading configurations

`Config.read?` reads a configuration from a TOML document. Keys that it does not know are
skipped. Where a table is expected, an array gives the same fields by position, and a date counts
as a table without known keys.
-/

namespace PoolClient

open Toml

namespace Config

/-- The fields of an item: by name in a table, and by position in an array or a list of tables. -/
def field? (item : Item) (name : String) (place : Nat) : Option Item :=
  match item with
  | .table _ entries => entries.lookup name
  | .array items => items[place]?
  | .tables earlier last => ((earlier ++ [last])[place]?).map (.table .header)
  | _ => none

/-- Whether an item has fields. -/
def hasFields : Item → Bool
  | .table _ _ => true
  | .array _ => true
  | .tables _ _ => true
  | .moment _ => true
  | _ => false

/-- The text of an item. -/
def text? : Item → Option String
  | .text s => some s
  | _ => none

/-- A number of seconds. -/
def seconds? : Item → Option Nat
  | .integer n => if 0 ≤ n then some n.toNat else none
  | _ => none

/-- Whether an item is an empty table or array. -/
def isEmpty : Item → Bool
  | .table _ [] => true
  | .array [] => true
  | _ => false

/-- A mode: its name, or a table with the name as its only key and nothing in it. -/
def mode? : Item → Option TlsMode
  | .text s => TlsMode.ofName? s
  | .table _ [(name, inner)] => if isEmpty inner then TlsMode.ofName? name else none
  | _ => none

/-- The texts in an array. -/
def texts? : Item → Option (List String)
  | .array items => items.mapM text?
  | _ => none

/-- Read a field that may be missing. -/
def optional {α : Type} (read : Item → Option α) : Option Item → Option (Option α)
  | none => some none
  | some item => (read item).map some

/-- How certificates are checked. By default the mode is strict, and there are no files. -/
def tls? (item : Item) : Option TlsConfig :=
  if hasFields item then
    match optional mode? (field? item "mode" 0), optional texts? (field? item "ca_certs" 1) with
    | some mode, some certificates => some ⟨mode.getD .strict, certificates.getD []⟩
    | _, _ => none
  else none

/-- The user. Name and password must be there. -/
def login? (item : Item) : Option LoginConfig :=
  if hasFields item then
    match (field? item "username" 0).bind text?, (field? item "password" 1).bind text?,
      optional text? (field? item "originator" 2) with
    | some username, some password, some originator => some ⟨username, password, originator⟩
    | _, _, _ => none
  else none

/-- The configuration in a table. The URL must be there. -/
def ofEntries? (entries : Entries) : Option Config :=
  match (entries.lookup "url").bind text?, optional seconds? (entries.lookup "timeout_secs"),
    optional tls? (entries.lookup "tls"), optional login? (entries.lookup "login") with
  | some url, some deadline, some tls, some login =>
    some ⟨url, deadline, tls.getD ⟨.strict, []⟩, login⟩
  | _, _, _, _ => none

/-- The configuration that a document gives. -/
def read? (text : String) : Option Config :=
  (Toml.read? text).bind ofEntries?

/-- The configuration in a file with the given content, if there is such a file. -/
def load : Option String → Except ConfigError Config
  | none => .error .unreadable
  | some text =>
    match read? text with
    | some c => .ok c
    | none => .error .malformed

end Config

end PoolClient
