import Mathlib.Data.List.Forall2
import PoolClient.Proofs.Catalogue
/-!
# Records are read by their schema

Reading a record from a structure is a sweep over the schema and nothing else: `Sweeps` says what
comes of it, which member is at fault if it fails, and that no other member matters. This follows
from what is read for one field (`readField`) by induction on the fields, and holds of every
record of the interface and of its batch of events (`titledRecords_sweep`).
-/

namespace PoolClient.Schema

open List

section

variable (title label : String) (members : List (String × Value))

/-- The member of a field can be read, if it is there. -/
def Readable (f : String × WireType) : Prop :=
  ∀ v, Value.member? members f.1 = some v →
    ∃ d, f.2.decode (fieldLabel label title f.1) v = .ok d

end

/-- The parts of a record with the named fields set to the zeros of their types. -/
def zeroed (names : List String) (fields : List (String × WireType))
    (parts : List (String × Datum)) : List (String × Datum) :=
  zipWith (fun f p => if f.1 ∈ names then (f.1, f.2.zero) else p) fields parts

/-- The members that do not have one of the names. -/
def without (names : List String) (members : List (String × Value)) : List (String × Value) :=
  members.filter (·.1 ∉ names)

/-- Reading the record with the given title and fields is a sweep over its fields. -/
structure Sweeps (title : String) (fields : List (String × WireType)) : Prop where
  /-- It succeeds just when every member for a field can be read. -/
  succeeds : ∀ label members,
    (∃ d, (WireType.record title fields).decode label (.struct members) = .ok d) ↔
      ∀ f ∈ fields, Readable title label members f
  /-- What is read has, in schema order, what is read for each field. -/
  reads : ∀ label members d,
    (WireType.record title fields).decode label (.struct members) = .ok d ↔
      ∃ parts, d = .record title parts ∧
        Forall₂ (fun f p => p.1 = f.1 ∧ readField title label members f = .ok p.2) fields parts
  /-- The error is that of the first field in schema order whose member cannot be read. -/
  fails : ∀ label members e,
    (WireType.record title fields).decode label (.struct members) = .error e ↔
      ∃ before f after v, fields = before ++ f :: after ∧
        (∀ g ∈ before, Readable title label members g) ∧ Value.member? members f.1 = some v ∧
        f.2.decode (fieldLabel label title f.1) v = .error e
  /-- Members outside the schema make no difference. -/
  ignores : ∀ label members members',
    (∀ f ∈ fields, Value.member? members f.1 = Value.member? members' f.1) →
      (WireType.record title fields).decode label (.struct members) =
        (WireType.record title fields).decode label (.struct members')
  /-- Leaving out members sets their fields to zero and changes no other field. -/
  leavesOut : ∀ label members names parts,
    (WireType.record title fields).decode label (.struct members) = .ok (.record title parts) →
      (WireType.record title fields).decode label (.struct (without names members)) =
        .ok (.record title (zeroed names fields parts))
  /-- What is written of a record in range is read back, with the fields left out set to zero,
  whatever is added outside the schema. -/
  restores : ∀ parts, HasType (.record title fields) (.record title parts) →
    (Datum.record title parts).InRange → ∃ members,
      (∀ label, (Datum.record title parts).encode label = .ok (.struct members)) ∧
      ∀ label names extras, (∀ m ∈ extras, m.1 ∉ fields.map (·.1)) →
        (WireType.record title fields).decode label
            (.ofMembers (without names members ++ extras)) =
          .ok (.record title (zeroed names fields parts))

/-! ## One field -/

section

variable {title label : String} {members members' : List (String × Value)} {f : String × WireType}

theorem readable_iff : Readable title label members f ↔
    ∃ d, readField title label members f = .ok d := by
  rw [Readable, readField]
  cases Value.member? members f.1 <;> simp

theorem readField_eq_error_iff {e : CodecError} : readField title label members f = .error e ↔
    ∃ v, Value.member? members f.1 = some v ∧
      f.2.decode (fieldLabel label title f.1) v = .error e := by
  rw [readField]
  cases Value.member? members f.1 <;> simp

theorem readField_congr (h : Value.member? members f.1 = Value.member? members' f.1) :
    readField title label members f = readField title label members' f := by
  rw [readField, readField, h]

theorem member?_without (names : List String) (members : List (String × Value)) (name : String) :
    Value.member? (without names members) name =
      if name ∈ names then none else Value.member? members name := by
  induction members with
  | nil => simp [without, Value.member?]
  | cons m rest ih =>
    rw [without] at ih ⊢
    by_cases hm : m.1 ∈ names
    · rw [filter_cons_of_neg (by simpa using hm), ih, Value.member?_cons]
      split
      · rfl
      · rename_i hname
        have hne : name ≠ m.1 := fun heq => hname (heq ▸ hm)
        rw [if_neg hne]
    · rw [filter_cons_of_pos (by simpa using hm), Value.member?_cons, Value.member?_cons, ih]
      by_cases heq : name = m.1
      · subst heq
        simp [hm]
      · simp [heq]

/-- Of a field that is left out, the zero is read; of any other what was read before. -/
theorem readField_without (names : List String) :
    readField title label (without names members) f =
      if f.1 ∈ names then .ok f.2.zero else readField title label members f := by
  rw [readField, member?_without]
  by_cases hf : f.1 ∈ names
  · rw [if_pos hf, if_pos hf]
  · rw [if_neg hf, if_neg hf, readField]

end

/-! ## All fields -/

section

variable {title label : String} {members : List (String × Value)}
  {fields : List (String × WireType)}

theorem decodeFields_eq_ok_iff {parts : List (String × Datum)} :
    decodeFields title fields label members = .ok parts ↔
      Forall₂ (fun f p => p.1 = f.1 ∧ readField title label members f = .ok p.2) fields parts := by
  rw [decodeFields_eq_mapM, mapM_eq_ok_iff]
  refine ⟨fun h => h.imp fun f p hp => ?_, fun h => h.imp fun f p hp => ?_⟩
  · obtain ⟨d, hd, rfl⟩ := map_eq_ok hp
    exact ⟨rfl, hd⟩
  · obtain ⟨hname, hd⟩ := hp
    rw [hd, ← hname]
    rfl

theorem decodeFields_eq_error_iff {e : CodecError} :
    decodeFields title fields label members = .error e ↔
      ∃ before f after, fields = before ++ f :: after ∧
        (∀ g ∈ before, Readable title label members g) ∧
        readField title label members f = .error e := by
  have hreads : ∀ g, (∃ p, (readField title label members g).map (g.1, ·) = .ok p) ↔
      Readable title label members g := by
    intro g
    rw [readable_iff]
    cases readField title label members g <;> simp [Except.map]
  have hfails : ∀ g, (readField title label members g).map (g.1, ·) = .error e ↔
      readField title label members g = .error e := by
    intro g
    cases readField title label members g <;> simp [Except.map]
  simp only [decodeFields_eq_mapM, mapM_eq_error_iff, hreads, hfails]

theorem decodeFields_succeeds_iff :
    (∃ parts, decodeFields title fields label members = .ok parts) ↔
      ∀ f ∈ fields, Readable title label members f := by
  constructor
  · rintro ⟨parts, h⟩ f hf
    obtain ⟨i, hi, rfl⟩ := getElem_of_mem hf
    have h := decodeFields_eq_ok_iff.1 h
    exact readable_iff.2 ⟨_, (h.get hi (h.length_eq ▸ hi)).2⟩
  · intro h
    cases hread : decodeFields title fields label members with
    | ok parts => exact ⟨parts, rfl⟩
    | error e =>
      -- a first field at fault would be one that can be read
      obtain ⟨before, f, after, rfl, -, hf⟩ := decodeFields_eq_error_iff.1 hread
      obtain ⟨d, hd⟩ := readable_iff.1 (h f (mem_append_right _ mem_cons_self))
      rw [hd] at hf
      cases hf

theorem decodeFields_congr {members' : List (String × Value)}
    (h : ∀ f ∈ fields, Value.member? members f.1 = Value.member? members' f.1) :
    decodeFields title fields label members = decodeFields title fields label members' := by
  induction fields with
  | nil => rfl
  | cons f rest ih =>
    obtain ⟨hf, hrest⟩ := forall_mem_cons.1 h
    rw [decodeFields_cons, decodeFields_cons, readField_congr hf, ih hrest]

theorem decodeFields_without {parts : List (String × Datum)} (names : List String)
    (h : decodeFields title fields label members = .ok parts) :
    decodeFields title fields label (without names members) = .ok (zeroed names fields parts) := by
  rw [decodeFields_eq_ok_iff] at h ⊢
  induction h with
  | nil => exact .nil
  | @cons f p fields parts hp hrest ih =>
    refine .cons ?_ ih
    rw [readField_without]
    by_cases hf : f.1 ∈ names
    · simp only [if_pos hf, and_self]
    · simpa only [if_neg hf] using hp

end

/-! ## Whole records -/

section

variable {title label : String} {fields : List (String × WireType)}
  {members : List (String × Value)}

theorem decode_struct (label : String) (members : List (String × Value)) :
    (WireType.record title fields).decode label (.struct members) =
      (decodeFields title fields label members).map (.record title) := by
  rw [WireType.decode_record]
  rfl

theorem decode_struct_eq_ok_iff {d : Datum} :
    (WireType.record title fields).decode label (.struct members) = .ok d ↔
      ∃ parts, d = .record title parts ∧ decodeFields title fields label members = .ok parts := by
  rw [decode_struct]
  constructor
  · intro h
    obtain ⟨parts, hread, rfl⟩ := map_eq_ok h
    exact ⟨parts, rfl, hread⟩
  · rintro ⟨parts, rfl, hread⟩
    rw [hread]
    rfl

theorem decode_struct_succeeds_iff :
    (∃ d, (WireType.record title fields).decode label (.struct members) = .ok d) ↔
      ∀ f ∈ fields, Readable title label members f := by
  rw [← decodeFields_succeeds_iff]
  constructor
  · rintro ⟨d, h⟩
    obtain ⟨parts, -, hread⟩ := decode_struct_eq_ok_iff.1 h
    exact ⟨parts, hread⟩
  · rintro ⟨parts, hread⟩
    exact ⟨_, decode_struct_eq_ok_iff.2 ⟨parts, rfl, hread⟩⟩

theorem decode_struct_eq_error_iff {e : CodecError} :
    (WireType.record title fields).decode label (.struct members) = .error e ↔
      ∃ before f after v, fields = before ++ f :: after ∧
        (∀ g ∈ before, Readable title label members g) ∧ Value.member? members f.1 = some v ∧
        f.2.decode (fieldLabel label title f.1) v = .error e := by
  rw [decode_struct]
  constructor
  · intro h
    obtain ⟨before, f, after, hfields, hbefore, hf⟩ := decodeFields_eq_error_iff.1 (map_eq_error h)
    obtain ⟨v, hv, hf⟩ := readField_eq_error_iff.1 hf
    exact ⟨before, f, after, v, hfields, hbefore, hv, hf⟩
  · rintro ⟨before, f, after, v, hfields, hbefore, hv, hf⟩
    have hf : readField title label members f = .error e := readField_eq_error_iff.2 ⟨v, hv, hf⟩
    rw [decodeFields_eq_error_iff.2 ⟨before, f, after, hfields, hbefore, hf⟩]
    rfl

theorem decode_struct_congr {members' : List (String × Value)}
    (h : ∀ f ∈ fields, Value.member? members f.1 = Value.member? members' f.1) :
    (WireType.record title fields).decode label (.struct members) =
      (WireType.record title fields).decode label (.struct members') := by
  rw [decode_struct, decode_struct, decodeFields_congr h]

theorem decode_struct_without {parts : List (String × Datum)} (names : List String)
    (h : (WireType.record title fields).decode label (.struct members) =
      .ok (.record title parts)) :
    (WireType.record title fields).decode label (.struct (without names members)) =
      .ok (.record title (zeroed names fields parts)) := by
  obtain ⟨parts', hparts, hread⟩ := decode_struct_eq_ok_iff.1 h
  cases hparts
  exact decode_struct_eq_ok_iff.2 ⟨_, rfl, decodeFields_without names hread⟩

/-- A member that is not among those added to a structure is found as before. -/
theorem member?_ofMembers_append {extras : List (String × Value)} {name : String}
    (hsorted : members.Pairwise (·.1 < ·.1)) (h : ∀ m ∈ extras, m.1 ≠ name) :
    Value.member? (Value.sortMembers (members ++ extras)) name = Value.member? members name := by
  have hextras : Value.member? extras.reverse name = none := by
    rw [Value.member?, Option.map_eq_none_iff, find?_eq_none]
    intro m hm
    simpa using h m (mem_reverse.1 hm)
  rw [Value.member?_sortMembers, reverse_append, Value.member?_append, hextras, Option.none_or,
    ← Value.member?_sortMembers, Value.sortMembers_eq_self hsorted]

/-- What is left of a structure is read as it is, whatever is added to it outside the schema. -/
theorem decode_ofMembers_append {extras : List (String × Value)}
    (hsorted : members.Pairwise (·.1 < ·.1)) (h : ∀ m ∈ extras, m.1 ∉ fields.map (·.1)) :
    (WireType.record title fields).decode label (.ofMembers (members ++ extras)) =
      (WireType.record title fields).decode label (.struct members) := by
  refine decode_struct_congr fun f hf => member?_ofMembers_append hsorted fun m hm heq => ?_
  exact h m hm (heq ▸ mem_map_of_mem hf)

/-- A record in range is written as a structure that reads back as the record. -/
theorem exists_struct_of_hasType {parts : List (String × Datum)}
    (ht : (WireType.record title fields).WellFormed)
    (h : HasType (.record title fields) (.record title parts))
    (hrange : (Datum.record title parts).InRange) :
    ∃ members, members.Pairwise (·.1 < ·.1) ∧
      (∀ label, (Datum.record title parts).encode label = .ok (.struct members)) ∧
      ∀ label, (WireType.record title fields).decode label (.struct members) =
        .ok (.record title parts) := by
  obtain ⟨hencode, hdecode⟩ := h.roundTrips ht hrange
  obtain ⟨written, -, hwire⟩ := map_eq_ok (hencode "")
  have hstruct : (Datum.record title parts).toWire = .struct (Value.sortMembers written) :=
    hwire.symm
  rw [hstruct] at hdecode
  exact ⟨_, Value.pairwise_sortMembers written, fun label => hstruct ▸ hencode label, hdecode⟩

/-- A well-formed record is read by a sweep over its schema. -/
theorem sweeps_of_wellFormed (ht : (WireType.record title fields).WellFormed) :
    Sweeps title fields where
  succeeds _ _ := decode_struct_succeeds_iff
  reads label members d := by
    simp only [decode_struct_eq_ok_iff, decodeFields_eq_ok_iff]
  fails _ _ _ := decode_struct_eq_error_iff
  ignores _ _ _ h := decode_struct_congr h
  leavesOut _ _ names _ h := decode_struct_without names h
  restores parts h hrange := by
    obtain ⟨members, hsorted, hencode, hdecode⟩ := exists_struct_of_hasType ht h hrange
    refine ⟨members, hencode, fun label names extras hextras => ?_⟩
    have hkept : (without names members).Pairwise (·.1 < ·.1) := hsorted.filter _
    rw [decode_ofMembers_append hkept hextras]
    exact decode_struct_without names (hdecode label)

end

/-! ## The records of the interface -/

/-- The records of the interface, titled by their classes, and its batch of events. -/
def titledRecords : List (String × WireType) :=
  ("EventBatch", Api.Record.eventBatch) ::
    zipWith (fun i r => (i.wireName ++ "Record", r.2)) Api.interfaces Api.records

/-- The title of a record. -/
def WireType.title? : WireType → Option String
  | .record title _ => some title
  | _ => none

theorem eq_record_of_title? {t : WireType} {title : String} (h : t.title? = some title) :
    t = .record title t.fields := by
  cases t with
  | record title' fields =>
    cases h
    rfl
  | _ => cases h

theorem wellFormed_titledRecords : ∀ r ∈ titledRecords, r.2.WellFormed := by
  intro r hr
  rcases mem_cons.1 hr with rfl | hr
  · exact wellFormed_eventBatch
  · rw [← map_uncurry_zip_eq_zipWith] at hr
    obtain ⟨⟨i, e⟩, he, rfl⟩ := mem_map.1 hr
    exact wellFormed_records e (of_mem_zip he).2

/-- Every record of the interface has the title of its class, and is read by a sweep over its
schema. -/
theorem titledRecords_sweep {title : String} {t : WireType} (h : (title, t) ∈ titledRecords) :
    t = .record title t.fields ∧ Sweeps title t.fields := by
  have htitles : ∀ r ∈ titledRecords, r.2.title? = some r.1 := by decide +kernel
  have ht : t = .record title t.fields := eq_record_of_title? (htitles _ h)
  exact ⟨ht, sweeps_of_wellFormed (ht ▸ wellFormed_titledRecords _ h)⟩

/-- Of two members that cannot be read, the error names the one that comes first in the schema,
not the one that comes first in the structure. -/
theorem vmAppliance_fails_at_uuid :
    let members : List (String × Value) :=
      [("VMs", .nil), ("new_member", .nil), ("uuid", .boolean true)]
    ("VM_applianceRecord", Api.Record.vmAppliance) ∈ titledRecords ∧
      Api.Record.vmAppliance.decode "in" (.struct members) =
        .error ⟨"in.VM_applianceRecord.uuid", .typeMismatch .string .boolean⟩ := by
  intro members
  have h : ("VM_applianceRecord", Api.Record.vmAppliance) ∈ titledRecords :=
    mem_of_getElem? (i := 12) rfl
  obtain ⟨-, hsweeps⟩ := titledRecords_sweep h
  refine ⟨h, (hsweeps.fails "in" members _).2 ⟨[], _, _, _, rfl, forall_mem_nil _, rfl, ?_⟩⟩
  rfl

end PoolClient.Schema
