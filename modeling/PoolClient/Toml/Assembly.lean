import PoolClient.Toml.Item
/-!
# Tables from statements

A document is a list of statements: entries, and headers that say into which table the entries
after them go. No item may be given twice, and a table may be begun only once. A dotted key may
go on in tables that only dotted keys have made, and a header may pass through every table
outside of braces. Where a path meets a list of tables, its last one is meant.
-/

namespace PoolClient.Toml

/-- A statement of a document. Every path has at least one name. -/
inductive Statement where
  | entry (path : List String) (item : Item)
  | table (path : List String)
  | element (path : List String)
  deriving Repr

/-- Whether a path that makes tables of one origin may pass through a table of another. -/
def mayPass (made : Origin) : Origin → Bool
  | .header => made == .implied
  | .implied => true
  | .dotted => true
  | .braces => false

/-- Change the table at a path, and make what is missing on the way. -/
def alter (made : Origin) (change : Entries → Option Entries) :
    List String → Entries → Option Entries
  | [], es => change es
  | name :: path, es =>
    match es.lookup name with
    | none => (alter made change path []).map fun sub => es ++ [(name, .table made sub)]
    | some (.table origin sub) =>
      if mayPass made origin then
        (alter made change path sub).map fun sub => replaced name (.table origin sub) es
      else none
    | some (.tables earlier last) =>
      (alter made change path last).map fun last => replaced name (.tables earlier last) es
    | some _ => none

/-- Add a new entry. -/
def addEntry (name : String) (item : Item) (es : Entries) : Option Entries :=
  if (es.lookup name).isSome then none else some (es ++ [(name, item)])

/-- Add a new entry to the table that a dotted key names last, which only dotted keys make. -/
def addToDotted (table name : String) (item : Item) (es : Entries) : Option Entries :=
  match es.lookup table with
  | none => some (es ++ [(table, .table .dotted [(name, item)])])
  | some (.table .dotted sub) =>
    (addEntry name item sub).map fun sub => replaced table (.table .dotted sub) es
  | some _ => none

/-- Add an entry under a key, which may be dotted. -/
def addUnder (path : List String) (item : Item) (es : Entries) : Option Entries :=
  match path.reverse with
  | [] => none
  | [name] => addEntry name item es
  | name :: table :: before => alter .dotted (addToDotted table name item) before.reverse es

/-- Begin a table. It may have been implied before. -/
def beginTable (name : String) (es : Entries) : Option Entries :=
  match es.lookup name with
  | none => some (es ++ [(name, .table .header [])])
  | some (.table .implied sub) => some (replaced name (.table .header sub) es)
  | some _ => none

/-- Begin another table of a list. -/
def beginElement (name : String) (es : Entries) : Option Entries :=
  match es.lookup name with
  | none => some (es ++ [(name, .tables [] [])])
  | some (.tables earlier last) => some (replaced name (.tables (earlier ++ [last]) []) es)
  | some _ => none

/-- Apply a change to the table that holds the last name of a header. -/
def atHeader (change : String → Entries → Option Entries) (path : List String) (es : Entries) :
    Option Entries :=
  match path.reverse with
  | [] => none
  | name :: before => alter .implied (change name) before.reverse es

/-- A document so far: its root table, and where entries go. -/
structure Draft where
  root : Entries
  current : List String

/-- The document after one more statement. -/
def Draft.add (d : Draft) : Statement → Option Draft
  | .entry path item =>
    (alter .implied (addUnder path item) d.current d.root).map fun root => { d with root }
  | .table path => (atHeader beginTable path d.root).map fun root => ⟨root, path⟩
  | .element path => (atHeader beginElement path d.root).map fun root => ⟨root, path⟩

/-- The root table of a document. -/
def assemble (statements : List Statement) : Option Entries :=
  (statements.foldlM Draft.add ⟨[], []⟩).map (·.root)

/-- The entries in braces. -/
def inBraces (pairs : List (List String × Item)) : Option Entries :=
  pairs.foldlM (fun es (path, item) => addUnder path item es) []

end PoolClient.Toml
