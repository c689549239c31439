/-!
# Types of typed data

`WireType` is the closed grammar of types that a parameter, a result or a field can have:
scalars, references to managed objects, enumerations, sequences, sets, mappings, and records
that list their fields. Keys of mappings travel as names of members, so only some types are
`KeyType`s. `WellFormed` asks that an enumeration or a record lists no name twice.
-/

namespace PoolClient.Schema

/-- The type of the keys of a mapping. -/
inductive KeyType where
  | text
  | integer
  | reference (className : String)
  | label (labels : List String)
  deriving DecidableEq, Repr

/-- The type of typed data. A record has a title, which names it in error messages, and a list
of fields in schema order. -/
inductive WireType where
  | text
  | integer
  | real
  | flag
  | instant
  | nothing
  | wire
  | reference (className : String)
  | label (labels : List String)
  | list (item : WireType)
  | set (item : WireType)
  | map (key : KeyType) (value : WireType)
  | record (title : String) (fields : List (String × WireType))
  deriving Repr, Inhabited

/-- A key type as a type of data. -/
def KeyType.toWireType : KeyType → WireType
  | .text => .text
  | .integer => .integer
  | .reference className => .reference className
  | .label labels => .label labels

namespace WireType

mutual

/-- No enumeration and no record in the type lists a name twice. -/
def WellFormed : WireType → Prop
  | .label labels => labels.Nodup
  | .list item => item.WellFormed
  | .set item => item.WellFormed
  | .map (.label labels) value => labels.Nodup ∧ value.WellFormed
  | .map _ value => value.WellFormed
  | .record _ fields => (fields.map (·.1)).Nodup ∧ WellFormedFields fields
  | _ => True

/-- The type of every field is well formed. -/
def WellFormedFields : List (String × WireType) → Prop
  | [] => True
  | (_, t) :: rest => t.WellFormed ∧ WellFormedFields rest

end

/-- The fields of a record. -/
def fields : WireType → List (String × WireType)
  | .record _ fields => fields
  | _ => []

end WireType

end PoolClient.Schema
