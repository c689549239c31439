import PoolClient.Schema.Datum
import PoolClient.Schema.Error
import PoolClient.Message.Reading
/-!
# From wire values to typed data

`decode` reads a wire value as a type. Integers may come as numbers or as decimal text, doubles
as any of the three, dates as dates or as text, and nothing at all as nil or empty text. A
record is a sweep over its schema: fields that are missing take their zero, members that the
schema does not name are skipped, and the first field in schema order that does not fit is the
error.
-/

namespace PoolClient.Schema

open Number Text Time

/-- The integer that a text denotes. -/
def integerOfText (label text : String) : Except CodecError Int64 :=
  let cs := trim text.toList
  match int64? cs with
  | some n => .ok n
  | none =>
    if isNumeral (splitSign cs).2 then .error ⟨label, .integerOutOfRange (String.ofList cs)⟩
    else .error ⟨label, .invalidInteger text⟩

/-- An instant, read from a text. -/
def instantOfText (label text : String) : Except CodecError Datum :=
  match Instant.read? text with
  | some t => .ok (.instant t)
  | none => .error ⟨label, .invalidTimestamp (trimmed text)⟩

theorem instantOfText_of_read? {label text : String} {t : Instant}
    (h : Instant.read? text = some t) : instantOfText label text = .ok (.instant t) := by
  rw [instantOfText, h]

/-- The key that the name of a member stands for. -/
def KeyType.decode (key : KeyType) (label name : String) : Except CodecError Datum :=
  match key with
  | .text => .ok (.text name)
  | .integer => (integerOfText label name).map .integer
  | .reference _ => .ok (.reference name)
  | .label labels => .ok (.label (.ofText labels name))

/-- Decode items from index `i` on with `f`, up to the first that does not fit. -/
def decodeItems (f : String → Value → Except CodecError Datum) (label : String) :
    Nat → List Value → Except CodecError (List Datum)
  | _, [] => .ok []
  | i, v :: rest =>
    match f (itemLabel label i) v with
    | .error e => .error e
    | .ok d => (decodeItems f label (i + 1) rest).map (d :: ·)

/-- Decode entries with `f`, each key before its value, up to the first that does not fit. -/
def decodeEntries (key : KeyType) (f : String → Value → Except CodecError Datum)
    (label : String) : List (String × Value) → Except CodecError (List (Datum × Datum))
  | [] => .ok []
  | (name, v) :: rest =>
    let label' := entryLabel label name
    match key.decode label' name with
    | .error e => .error e
    | .ok k =>
      match f label' v with
      | .error e => .error e
      | .ok d => (decodeEntries key f label rest).map ((k, d) :: ·)

/-- The items of an array. -/
def arrayItems (label : String) : Value → Except CodecError (List Value)
  | .array items => .ok items
  | v => .error (.mismatch label .array v)

/-- The members of a structure. -/
def structMembers (label : String) : Value → Except CodecError (List (String × Value))
  | .struct members => .ok members
  | v => .error (.mismatch label .struct v)

mutual

/-- Read a wire value as a type. -/
def WireType.decode (t : WireType) (label : String) (v : Value) : Except CodecError Datum :=
  match t with
  | .text =>
    match v with
    | .string s => .ok (.text s)
    | v => .error (.mismatch label .string v)
  | .integer =>
    match v with
    | .int n => .ok (.integer n)
    | .string s => (integerOfText label s).map .integer
    | v => .error (.mismatch label .integer v)
  | .real =>
    match v with
    | .double x => .ok (.real x)
    | .int n => .ok (.real (Float.ofInt n.toInt))
    | .string s =>
      match double? (trim s.toList) with
      | some x => .ok (.real x)
      | none => .error ⟨label, .invalidFloat s⟩
    | v => .error (.mismatch label .double v)
  | .flag =>
    match v with
    | .boolean b => .ok (.flag b)
    | v => .error (.mismatch label .boolean v)
  | .instant =>
    match v with
    | .dateTime s => instantOfText label s
    | .string s => instantOfText label s
    | v => .error (.mismatch label .dateTime v)
  | .nothing =>
    match v with
    | .nil => .ok .nothing
    | v => if v.text? = some "" then .ok .nothing else .error ⟨label, .unexpectedResult v.display⟩
  | .wire => .ok (.wire v)
  | .reference _ =>
    match v with
    | .string id => .ok (.reference id)
    | v => .error (.mismatch label .string v)
  | .label labels =>
    match v with
    | .string s => .ok (.label (.ofText labels s))
    | v => .error (.mismatch label .string v)
  | .list item => do
    let items ← arrayItems label v
    return .list (← decodeItems item.decode label 0 items)
  | .set item => do
    let items ← arrayItems label v
    return .set (Datum.sortedSet (← decodeItems item.decode label 0 items))
  | .map key value => do
    let members ← structMembers label v
    return .map (Datum.sortedMap (← decodeEntries key value.decode label members))
  | .record title fields => do
    let members ← structMembers label v
    return .record title (← decodeFields title fields label members)

/-- Read the fields of a record from the members of a structure. -/
def decodeFields (title : String) (fields : List (String × WireType)) (label : String)
    (members : List (String × Value)) : Except CodecError (List (String × Datum)) :=
  match fields with
  | [] => .ok []
  | (name, t) :: rest =>
    match Value.member? members name with
    | none => (decodeFields title rest label members).map ((name, t.zero) :: ·)
    | some v =>
      match t.decode (fieldLabel label title name) v with
      | .error e => .error e
      | .ok d => (decodeFields title rest label members).map ((name, d) :: ·)

end

section

variable {label title : String} {v : Value}

theorem WireType.decode_list {item : WireType} : (WireType.list item).decode label v = do
    let items ← arrayItems label v
    return .list (← decodeItems item.decode label 0 items) :=
  rfl

theorem WireType.decode_set {item : WireType} : (WireType.set item).decode label v = do
    let items ← arrayItems label v
    return .set (Datum.sortedSet (← decodeItems item.decode label 0 items)) :=
  rfl

theorem WireType.decode_map {key : KeyType} {value : WireType} :
    (WireType.map key value).decode label v = do
      let members ← structMembers label v
      return .map (Datum.sortedMap (← decodeEntries key value.decode label members)) :=
  rfl

theorem WireType.decode_record {fields : List (String × WireType)} :
    (WireType.record title fields).decode label v = do
      let members ← structMembers label v
      return .record title (← decodeFields title fields label members) :=
  rfl

variable {fields : List (String × WireType)} {members : List (String × Value)}

/-- What is read for a field: its member, or the zero of its type if that is left out. -/
def readField (title label : String) (members : List (String × Value)) (f : String × WireType) :
    Except CodecError Datum :=
  match Value.member? members f.1 with
  | none => .ok f.2.zero
  | some v => f.2.decode (fieldLabel label title f.1) v

theorem readField_of_member {f : String × WireType} (h : Value.member? members f.1 = some v) :
    readField title label members f = f.2.decode (fieldLabel label title f.1) v := by
  rw [readField, h]

theorem decodeFields_cons (f : String × WireType) :
    decodeFields title (f :: fields) label members =
      readField title label members f >>= fun d =>
        (decodeFields title fields label members).map ((f.1, d) :: ·) := by
  obtain ⟨name, t⟩ := f
  have hcons : decodeFields title ((name, t) :: fields) label members =
      match Value.member? members name with
      | none => (decodeFields title fields label members).map ((name, t.zero) :: ·)
      | some v =>
        match t.decode (fieldLabel label title name) v with
        | .error e => .error e
        | .ok d => (decodeFields title fields label members).map ((name, d) :: ·) := rfl
  rw [hcons, readField]
  cases Value.member? members name with
  | none => rfl
  | some v =>
    simp only
    cases t.decode (fieldLabel label title name) v <;> rfl

end

/-- Read a wire value that was itself written out as text. -/
def WireType.decodeText (t : WireType) (label text : String) : Except CodecError Datum :=
  match parseValue text with
  | .error cause => .error ⟨label, .malformedValue cause⟩
  | .ok v => t.decode label v

end PoolClient.Schema
