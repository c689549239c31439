import PoolClient.Schema.WireType
import PoolClient.Time.Instant
import PoolClient.Wire.Value
/-!
# Typed data

A `Datum` is a value of a `WireType`. A label of an enumeration carries its place in the
declaration if the schema knows it (`Label.ofText`). Sets and mappings are kept in the order of
`Datum.compare`: text and references by code point, numbers by value, labels by declaration
with unknown ones last, sequences lexicographically. `sortedSet` and `sortedMap` build them.
-/

namespace PoolClient.Schema

open Time

/-- A label of an enumeration: its text, and its place if the schema knows it. -/
structure Label where
  place : Option Nat
  text : String
  deriving DecidableEq, Repr, Inhabited

/-- The label with the given text. -/
def Label.ofText (labels : List String) (text : String) : Label :=
  ⟨labels.findIdx? (· == text), text⟩

/-- A value of typed data. -/
inductive Datum where
  | text (s : String)
  | integer (n : Int64)
  | real (x : Float)
  | flag (b : Bool)
  | instant (t : Instant)
  | nothing
  | wire (v : Value)
  | reference (id : String)
  | label (l : Label)
  | list (items : List Datum)
  | set (items : List Datum)
  | map (entries : List (Datum × Datum))
  | record (title : String) (fields : List (String × Datum))
  deriving Repr, Inhabited

/-! ## Order -/

/-- Known labels come in declaration order, unknown ones after them by code point. -/
def Label.compare (a b : Label) : Ordering :=
  match a.place, b.place with
  | some i, some j => Ord.compare i j
  | some _, none => .lt
  | none, some _ => .gt
  | none, none => Ord.compare a.text b.text

namespace Datum

mutual

/-- The order of data of one type. Doubles, wire values and records have none, and count as
equal. -/
def compare : Datum → Datum → Ordering
  | .text s, .text t => Ord.compare s t
  | .integer m, .integer n => Ord.compare m.toInt n.toInt
  | .flag a, .flag b => Ord.compare a b
  | .instant s, .instant t => s.compare t
  | .reference s, .reference t => Ord.compare s t
  | .label a, .label b => a.compare b
  | .list as, .list bs => compareItems as bs
  | .set as, .set bs => compareItems as bs
  | .map as, .map bs => compareEntries as bs
  | _, _ => .eq

/-- Lexicographic order of sequences. -/
def compareItems : List Datum → List Datum → Ordering
  | [], [] => .eq
  | [], _ :: _ => .lt
  | _ :: _, [] => .gt
  | a :: as, b :: bs => (a.compare b).then (compareItems as bs)

/-- Lexicographic order of entries, keys before values. -/
def compareEntries : List (Datum × Datum) → List (Datum × Datum) → Ordering
  | [], [] => .eq
  | [], _ :: _ => .lt
  | _ :: _, [] => .gt
  | (k, v) :: as, (l, w) :: bs =>
    (k.compare l).then ((v.compare w).then (compareEntries as bs))

end

/-- Put an item into an ascending list, unless it is there. -/
def insertItem (item : Datum) : List Datum → List Datum
  | [] => [item]
  | x :: rest =>
    match item.compare x with
    | .lt => item :: x :: rest
    | .eq => x :: rest
    | .gt => x :: insertItem item rest

/-- The distinct items in ascending order. -/
def sortedSet (items : List Datum) : List Datum :=
  items.foldl (fun sorted x => insertItem x sorted) []

/-- Set an entry in an ascending list. An earlier value of the key is replaced. -/
def insertEntry (key value : Datum) : List (Datum × Datum) → List (Datum × Datum)
  | [] => [(key, value)]
  | (k, v) :: rest =>
    match key.compare k with
    | .lt => (key, value) :: (k, v) :: rest
    | .eq => (key, value) :: rest
    | .gt => (k, v) :: insertEntry key value rest

/-- The entries by ascending key; the last value of a repeated key stays. -/
def sortedMap (entries : List (Datum × Datum)) : List (Datum × Datum) :=
  entries.foldl (fun sorted e => insertEntry e.1 e.2 sorted) []

/-! ## Parts -/

/-- The field of a record with the given name. -/
def field? (name : String) : Datum → Option Datum
  | .record _ fields => (fields.find? (·.1 == name)).map (·.2)
  | _ => none

/-- The text of text, a reference or a label. -/
def asText : Datum → String
  | .text s => s
  | .reference id => id
  | .label l => l.text
  | _ => ""

/-- The number of an integer. -/
def asInteger : Datum → Int64
  | .integer n => n
  | _ => 0

/-- The items of a sequence or set. -/
def asItems : Datum → List Datum
  | .list items => items
  | .set items => items
  | _ => []

/-- The entries of a mapping. -/
def asEntries : Datum → List (Datum × Datum)
  | .map entries => entries
  | _ => []

end Datum

mutual

/-- The value that a field takes when it is left out. -/
def WireType.zero : WireType → Datum
  | .text => .text ""
  | .integer => .integer 0
  | .real => .real 0
  | .flag => .flag false
  | .instant => .instant .zero
  | .nothing => .nothing
  | .wire => .wire .nil
  | .reference _ => .reference ""
  | .label _ => .label ⟨none, ""⟩
  | .list _ => .list []
  | .set _ => .set []
  | .map _ _ => .map []
  | .record title fields => .record title (zeroFields fields)

/-- Every field with the zero of its type. -/
def zeroFields : List (String × WireType) → List (String × Datum)
  | [] => []
  | (name, t) :: rest => (name, t.zero) :: zeroFields rest

end

end PoolClient.Schema
