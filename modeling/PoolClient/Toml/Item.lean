/-!
# TOML items

A TOML document is a table of named items. An item is a scalar, an array, a table, or a list of
tables that were begun one after the other. How a table came to be decides what may still be
added to it, so every table carries its `Origin`.
-/

namespace PoolClient.Toml

/-- How a table came to be: by a header of its own, on the way to another table's header, by a
dotted key, or in braces. -/
inductive Origin where
  | header
  | implied
  | dotted
  | braces
  deriving DecidableEq, Repr

/-- An item of a document. -/
inductive Item where
  | text (s : String)
  | integer (n : Int)
  | float (x : Float)
  | flag (b : Bool)
  | moment (text : String)
  | array (items : List Item)
  | table (origin : Origin) (entries : List (String × Item))
  | tables (earlier : List (List (String × Item))) (last : List (String × Item))
  deriving Repr

/-- The named items of a table. No name occurs twice. -/
abbrev Entries := List (String × Item)

/-- The entries with another item for one name. -/
def replaced (name : String) (item : Item) (entries : Entries) : Entries :=
  entries.map fun e => if e.1 == name then (name, item) else e

end PoolClient.Toml
