import PoolClient.Schema.Datum
import PoolClient.Schema.Error
/-!
# From typed data to wire values

`Datum.encode` writes typed data as a wire value. Integers travel as decimal text, references
and labels as text, dates in their compact form. Only a double that is not finite cannot be
written, and the first such part is the error.
-/

namespace PoolClient.Schema

namespace Datum

/-- The name of the member for a key. -/
def keyText : Datum → String
  | .text s => s
  | .integer n => Number.int64Text n
  | .reference id => id
  | .label l => l.text
  | _ => ""

mutual

/-- Write a datum as a wire value. -/
def encode (label : String) : Datum → Except CodecError Value
  | .text s => .ok (.string s)
  | .integer n => .ok (.string (Number.int64Text n))
  | .real x => if x.isFinite then .ok (.double x) else .error ⟨label, .nonFiniteFloat x⟩
  | .flag b => .ok (.boolean b)
  | .instant t => .ok (.dateTime t.text)
  | .nothing => .ok .nil
  | .wire v => .ok v
  | .reference id => .ok (.string id)
  | .label l => .ok (.string l.text)
  | .list items => (encodeItems label 0 items).map .array
  | .set items => (encodeItems label 0 items).map .array
  | .map entries => (encodeEntries label entries).map .ofMembers
  | .record title fields => (encodeFields label title fields).map .ofMembers

/-- Write items from index `i` on. -/
def encodeItems (label : String) (i : Nat) : List Datum → Except CodecError (List Value)
  | [] => .ok []
  | d :: rest =>
    match d.encode (itemLabel label i) with
    | .error e => .error e
    | .ok v => (encodeItems label (i + 1) rest).map (v :: ·)

/-- Write the entries of a mapping as members. -/
def encodeEntries (label : String) : List (Datum × Datum) → Except CodecError (List (String × Value))
  | [] => .ok []
  | (k, d) :: rest =>
    match d.encode (entryLabel label k.keyText) with
    | .error e => .error e
    | .ok v => (encodeEntries label rest).map ((k.keyText, v) :: ·)

/-- Write the fields of a record as members. -/
def encodeFields (label title : String) : List (String × Datum) → Except CodecError (List (String × Value))
  | [] => .ok []
  | (name, d) :: rest =>
    match d.encode (fieldLabel label title name) with
    | .error e => .error e
    | .ok v => (encodeFields label title rest).map ((name, v) :: ·)

end

end Datum

end PoolClient.Schema
