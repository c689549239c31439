import Mathlib.Data.List.Forall2
import PoolClient.Proofs.Encoding
import PoolClient.Proofs.Instants
import PoolClient.Proofs.Members
import PoolClient.Proofs.Order
import PoolClient.Schema.Decode
/-!
# Typed data read back

Typed data that is written as a wire value reads back, under any labels. `HasType` says what the
values of a type are, and `InRange` leaves out the doubles and dates that have no place in a
message. `ReadsAs` says what a value reads back as. It is shown for each former of types from the
same of its parts, and so every value in range of a well-formed type reads back as it was
(`HasType.roundTrips`).
-/

namespace PoolClient.Schema

open Number Text Time

open scoped List

/-! ## Values of types -/

/-- A label of an enumeration as it can be: it has its place among the known labels, or is none
of them. -/
def Label.Among (l : Label) (labels : List String) : Prop :=
  (∃ i, l.place = some i ∧ labels[i]? = some l.text) ∨ (l.place = none ∧ l.text ∉ labels)

/-- The values of a type. Sets and mappings are in strictly ascending order, and a record has
its fields in the order of the schema. -/
inductive HasType : WireType → Datum → Prop where
  | text (s : String) : HasType .text (.text s)
  | integer (n : Int64) : HasType .integer (.integer n)
  | real (x : Float) : HasType .real (.real x)
  | flag (b : Bool) : HasType .flag (.flag b)
  | instant (t : Instant) : HasType .instant (.instant t)
  | nothing : HasType .nothing .nothing
  | wire (v : Value) : HasType .wire (.wire v)
  | reference (className id : String) : HasType (.reference className) (.reference id)
  | label {labels : List String} {l : Label} (h : l.Among labels) :
      HasType (.label labels) (.label l)
  | list {item : WireType} {items : List Datum} (h : ∀ d ∈ items, HasType item d) :
      HasType (.list item) (.list items)
  | set {item : WireType} {items : List Datum} (h : ∀ d ∈ items, HasType item d)
      (hsorted : items.Pairwise fun a b => a.compare b = .lt) : HasType (.set item) (.set items)
  | map {key : KeyType} {value : WireType} {entries : List (Datum × Datum)}
      (hkeys : ∀ e ∈ entries, HasType key.toWireType e.1)
      (hvalues : ∀ e ∈ entries, HasType value e.2) (hsorted : Datum.Ascending entries) :
      HasType (.map key value) (.map entries)
  | record {title : String} {fields : List (String × WireType)} {parts : List (String × Datum)}
      (hnames : parts.map (·.1) = fields.map (·.1))
      (hparts : ∀ p ∈ fields.zip parts, HasType p.1.2 p.2.2) :
      HasType (.record title fields) (.record title parts)

namespace Datum

mutual

/-- At every depth, doubles are finite, and dates are whole seconds of the years 1 to 9999. -/
def InRange : Datum → Prop
  | .real x => x.isFinite = true
  | .instant t => t.nanos = 0 ∧ -62135596800 ≤ t.seconds ∧ t.seconds ≤ 253402300799
  | .list items => InRangeItems items
  | .set items => InRangeItems items
  | .map entries => InRangeEntries entries
  | .record _ fields => InRangeFields fields
  | _ => True

/-- Every item is in range. -/
def InRangeItems : List Datum → Prop
  | [] => True
  | d :: rest => d.InRange ∧ InRangeItems rest

/-- The value of every entry is in range. -/
def InRangeEntries : List (Datum × Datum) → Prop
  | [] => True
  | (_, d) :: rest => d.InRange ∧ InRangeEntries rest

/-- Every field is in range. -/
def InRangeFields : List (String × Datum) → Prop
  | [] => True
  | (_, d) :: rest => d.InRange ∧ InRangeFields rest

end

theorem inRangeItems_iff {items : List Datum} :
    InRangeItems items ↔ ∀ d ∈ items, d.InRange := by
  induction items with
  | nil => simp [InRangeItems]
  | cons d rest ih => simp [InRangeItems, ih]

theorem inRangeEntries_iff {entries : List (Datum × Datum)} :
    InRangeEntries entries ↔ ∀ e ∈ entries, e.2.InRange := by
  induction entries with
  | nil => simp [InRangeEntries]
  | cons e rest ih => simp [InRangeEntries, ih]

theorem inRangeFields_iff {fields : List (String × Datum)} :
    InRangeFields fields ↔ ∀ f ∈ fields, f.2.InRange := by
  induction fields with
  | nil => simp [InRangeFields]
  | cons f rest ih => simp [InRangeFields, ih]

end Datum

/-! ## Data that reads back -/

/-- A datum is written as one value, whatever the label, and this reads back as `d'`, whatever the
label. -/
def ReadsAs (t : WireType) (d d' : Datum) : Prop :=
  d.Writes ∧ ∀ label, t.decode label d.toWire = .ok d'

theorem ReadsAs.intro {t : WireType} {d d' : Datum} {v : Value}
    (hencode : ∀ label, d.encode label = .ok v) (hdecode : ∀ label, t.decode label v = .ok d') :
    ReadsAs t d d' := by
  refine ⟨.intro hencode, ?_⟩
  rw [Datum.toWire_eq hencode]
  exact hdecode

/-! ### Scalars -/

theorem integerOfText_int64Text (label : String) (n : Int64) :
    integerOfText label (int64Text n) = .ok n := by
  have htrim : trim (int64Text n).toList = (int64Text n).toList :=
    (plainText_integerText n.toInt).trim_eq
  simp only [integerOfText, htrim, int64?_int64Text]

theorem Label.ofText_of_among {labels : List String} {l : Label} (hlabels : labels.Nodup)
    (h : l.Among labels) : Label.ofText labels l.text = l := by
  have hfound : labels.findIdx? (· == l.text) = l.place := by
    obtain ⟨i, hplace, htext⟩ | ⟨hplace, htext⟩ := h
    · obtain ⟨hi, htext⟩ := List.getElem?_eq_some_iff.1 htext
      rw [hplace, List.findIdx?_eq_some_iff_getElem]
      refine ⟨hi, beq_iff_eq.2 htext, fun j hj hsame => ?_⟩
      have hne : labels[j] ≠ labels[i] := List.pairwise_iff_getElem.1 hlabels j i _ hi hj
      exact hne ((beq_iff_eq.1 hsame).trans htext.symm)
    · rw [hplace, List.findIdx?_eq_none_iff]
      intro text hmem
      rw [beq_eq_false_iff_ne]
      rintro rfl
      exact htext hmem
  rw [Label.ofText, hfound]

theorem readsAs_instant {t : Instant} (hyear : t.FourDigitYear) (hproper : t.Proper) :
    ReadsAs .instant (.instant t) (.instant t.toSecond) := by
  refine .intro (fun _ => rfl) fun label => ?_
  have hdecode : WireType.instant.decode label (.dateTime t.text) = instantOfText label t.text := rfl
  rw [hdecode, instantOfText_of_read? (read?_text hyear hproper)]

theorem readsAs_integer (n : Int64) : ReadsAs .integer (.integer n) (.integer n) := by
  refine .intro (fun _ => rfl) fun label => ?_
  exact congrArg (Except.map Datum.integer) (integerOfText_int64Text label n)

theorem readsAs_real {x : Float} (h : x.isFinite = true) : ReadsAs .real (.real x) (.real x) := by
  exact .intro (fun _ => if_pos h) fun _ => rfl

theorem readsAs_label {labels : List String} {l : Label} (hlabels : labels.Nodup)
    (h : l.Among labels) : ReadsAs (.label labels) (.label l) (.label l) := by
  refine .intro (fun _ => rfl) fun label => ?_
  exact congrArg (fun l => Except.ok (Datum.label l)) (Label.ofText_of_among hlabels h)

/-! ### Sequences and sets -/

section Items

variable {item : WireType} {items : List Datum} {f : Datum → Datum}

/-- Values that are read one by one are read together. -/
theorem decodeItems_of_forall₂ {vs : List Value} {ds : List Datum}
    (h : List.Forall₂ (fun v d => ∀ label, item.decode label v = .ok d) vs ds) (label : String)
    (i : Nat) : decodeItems item.decode label i vs = .ok ds := by
  induction h generalizing i with
  | nil => rfl
  | @cons v d vs ds hd _ ih =>
    have hrest : decodeItems item.decode label (i + 1) vs = .ok ds := ih (i + 1)
    rw [decodeItems, hd]
    simp only [hrest]
    rfl

theorem decodeItems_eq (h : ∀ d ∈ items, ReadsAs item d (f d)) (label : String) (i : Nat) :
    decodeItems item.decode label i (items.map Datum.toWire) = .ok (items.map f) := by
  refine decodeItems_of_forall₂ ?_ label i
  rw [List.forall₂_map_left_iff, List.forall₂_map_right_iff]
  exact List.forall₂_same.2 fun d hd => (h d hd).2

theorem readsAs_list (h : ∀ d ∈ items, ReadsAs item d (f d)) :
    ReadsAs (.list item) (.list items) (.list (items.map f)) := by
  refine .intro (Datum.encode_list fun d hd => (h d hd).1) fun label => ?_
  simp only [WireType.decode_list, arrayItems, bind, Except.bind, decodeItems_eq h]
  rfl

theorem readsAs_set (h : ∀ d ∈ items, ReadsAs item d (f d)) :
    ReadsAs (.set item) (.set items) (.set (Datum.sortedSet (items.map f))) := by
  refine .intro (Datum.encode_set fun d hd => (h d hd).1) fun label => ?_
  simp only [WireType.decode_set, arrayItems, bind, Except.bind, decodeItems_eq h]
  rfl

end Items

/-! ### Mappings -/

section Entries

variable {key : KeyType} {value : WireType} {entries : List (Datum × Datum)} {f : Datum → Datum}

/-- A key reads back from the name of its member. -/
theorem decode_keyText {k : Datum} (hkey : key.toWireType.WellFormed)
    (h : HasType key.toWireType k) (label : String) : key.decode label k.keyText = .ok k := by
  cases key with
  | text =>
    cases h
    rfl
  | integer =>
    cases h with
    | integer n =>
      rw [KeyType.decode, Datum.keyText, integerOfText_int64Text]
      rfl
  | reference className =>
    cases h
    rfl
  | label labels =>
    cases h with
    | label h => rw [KeyType.decode, Datum.keyText, Label.ofText_of_among hkey h]

/-- Members that are read one by one are read together. -/
theorem decodeEntries_eq {members : List (String × Value)} {g : String × Value → Datum × Datum}
    (hkeys : ∀ m ∈ members, ∀ label, key.decode label m.1 = .ok (g m).1)
    (hvalues : ∀ m ∈ members, ∀ label, value.decode label m.2 = .ok (g m).2) (label : String) :
    decodeEntries key value.decode label members = .ok (members.map g) := by
  induction members with
  | nil => rfl
  | cons m rest ih =>
    have hrest := ih (fun m hm => hkeys m (List.mem_cons_of_mem _ hm))
      fun m hm => hvalues m (List.mem_cons_of_mem _ hm)
    rw [decodeEntries]
    simp only [hkeys m List.mem_cons_self, hvalues m List.mem_cons_self, hrest]
    rfl

/-- The entry that a member is read as; nothing in place of what cannot be read. -/
def entryOf (key : KeyType) (value : WireType) (m : String × Value) : Datum × Datum :=
  ((key.decode "" m.1).toOption.getD .nothing, (value.decode "" m.2).toOption.getD .nothing)

/-- The members of a mapping have different names. -/
theorem nodup_memberOf (hkey : key.toWireType.WellFormed)
    (hkeys : ∀ e ∈ entries, HasType key.toWireType e.1) (hsorted : Datum.Ascending entries) :
    ((entries.map Datum.memberOf).map (·.1)).Nodup := by
  rw [List.map_map, List.nodup_iff_pairwise_ne, List.pairwise_map]
  refine List.Pairwise.imp_of_mem ?_ hsorted
  intro a b ha hb hlt hsame
  have hkey : a.1 = b.1 := by
    have hok : Except.ok (ε := CodecError) a.1 = .ok b.1 := by
      rw [← decode_keyText hkey (hkeys a ha) "", ← decode_keyText hkey (hkeys b hb) ""]
      exact congrArg _ hsame
    exact Except.ok.inj hok
  rw [hkey, Datum.compare_self] at hlt
  cases hlt

theorem readsAs_map (hkey : key.toWireType.WellFormed)
    (hkeys : ∀ e ∈ entries, HasType key.toWireType e.1)
    (hvalues : ∀ e ∈ entries, ReadsAs value e.2 (f e.2)) (hsorted : Datum.Ascending entries) :
    ReadsAs (.map key value) (.map entries) (.map (entries.map fun e => (e.1, f e.2))) := by
  have hread : ∀ e ∈ entries, ∀ label, key.decode label (Datum.memberOf e).1 = .ok e.1 :=
    fun e he => decode_keyText hkey (hkeys e he)
  have hentry : ∀ e ∈ entries, entryOf key value (Datum.memberOf e) = (e.1, f e.2) := by
    intro e he
    rw [entryOf, hread e he, Datum.memberOf, (hvalues e he).2]
    rfl
  have hperm := Value.sortMembers_perm (nodup_memberOf hkey hkeys hsorted)
  have hmember : ∀ m ∈ Value.sortMembers (entries.map Datum.memberOf),
      ∃ e ∈ entries, Datum.memberOf e = m :=
    fun m hm => List.mem_map.1 (hperm.mem_iff.1 hm)
  have hentries : (Value.sortMembers (entries.map Datum.memberOf)).map (entryOf key value) ~
      entries.map fun e => (e.1, f e.2) := by
    have hmap : (entries.map Datum.memberOf).map (entryOf key value) =
        entries.map fun e => (e.1, f e.2) := by
      rw [List.map_map]
      exact List.map_congr_left hentry
    exact (hperm.map _).trans (.of_eq hmap)
  have hsorted' : Datum.Ascending (entries.map fun e => (e.1, f e.2)) :=
    List.pairwise_map.2 hsorted
  refine .intro (Datum.encode_map fun e he => (hvalues e he).1) fun label => ?_
  have hdecode : decodeEntries key value.decode label
      (Value.sortMembers (entries.map Datum.memberOf)) =
        .ok ((Value.sortMembers (entries.map Datum.memberOf)).map (entryOf key value)) := by
    refine decodeEntries_eq (fun m hm label => ?_) (fun m hm label => ?_) label
    · obtain ⟨e, he, rfl⟩ := hmember m hm
      rw [hentry e he, hread e he]
    · obtain ⟨e, he, rfl⟩ := hmember m hm
      rw [hentry e he]
      exact (hvalues e he).2 label
  simp only [WireType.decode_map, Value.ofMembers, structMembers, bind, Except.bind, hdecode,
    Datum.sortedMap_eq hsorted' hentries]
  rfl

end Entries

/-! ### Records -/

section Fields

variable {title : String} {fields : List (String × WireType)} {parts : List (String × Datum)}
  {f : Datum → Datum}

/-- The member for a field is found by the name of the field. -/
theorem member?_fieldMember (hfields : (fields.map (·.1)).Nodup)
    (hnames : parts.map (·.1) = fields.map (·.1)) {p : String × Datum} (hp : p ∈ parts) :
    Value.member? (Value.sortMembers (parts.map Datum.fieldMember)) p.1 = some p.2.toWire := by
  have hmap : (parts.map Datum.fieldMember).map (·.1) = parts.map (·.1) := by
    rw [List.map_map]
    rfl
  have hnodup : ((parts.map Datum.fieldMember).map (·.1)).Nodup := by
    rw [hmap, hnames]
    exact hfields
  exact Value.member?_sortMembers_of_mem hnodup (List.mem_map_of_mem hp)

/-- Fields whose members are there are read in schema order. -/
theorem decodeFields_eq {members : List (String × Value)}
    (hnames : parts.map (·.1) = fields.map (·.1))
    (hparts : ∀ p ∈ fields.zip parts, ReadsAs p.1.2 p.2.2 (f p.2.2))
    (hmembers : ∀ p ∈ parts, Value.member? members p.1 = some p.2.toWire) (label : String) :
    decodeFields title fields label members = .ok (parts.map fun p => (p.1, f p.2)) := by
  induction fields generalizing parts with
  | nil =>
    obtain rfl : parts = [] := List.map_eq_nil_iff.1 hnames
    rfl
  | cons field rest ih =>
    obtain ⟨name, t⟩ := field
    cases parts with
    | nil => cases hnames
    | cons p parts =>
      obtain ⟨rfl, htail⟩ := List.cons.inj hnames
      have hp : ReadsAs t p.2 (f p.2) := hparts _ List.mem_cons_self
      have hrest := ih htail (fun p hp => hparts p (List.mem_cons_of_mem _ hp))
        fun p hp => hmembers p (List.mem_cons_of_mem _ hp)
      rw [decodeFields_cons, readField_of_member (hmembers p List.mem_cons_self), hp.2, hrest]
      rfl

/-- Every part of a record stands beside its field. -/
theorem exists_mem_zip (hnames : parts.map (·.1) = fields.map (·.1)) {p : String × Datum}
    (hp : p ∈ parts) : ∃ q ∈ fields.zip parts, q.2 = p := by
  have hlength : parts.length ≤ fields.length := by
    have := congrArg List.length hnames
    rw [List.length_map, List.length_map] at this
    exact Nat.le_of_eq this
  rw [← List.map_snd_zip hlength] at hp
  exact List.mem_map.1 hp

/-- Every field stands beside a part of the record. -/
theorem exists_mem_zip_of_field (hnames : parts.map (·.1) = fields.map (·.1))
    {field : String × WireType} (hfield : field ∈ fields) :
    ∃ q ∈ fields.zip parts, q.1 = field := by
  have hlength : fields.length ≤ parts.length := by
    have := congrArg List.length hnames
    rw [List.length_map, List.length_map] at this
    exact Nat.le_of_eq this.symm
  rw [← List.map_fst_zip hlength] at hfield
  exact List.mem_map.1 hfield

/-- A part has the name of the field that it stands beside. -/
theorem name_of_mem_zip (hnames : parts.map (·.1) = fields.map (·.1))
    {q : (String × WireType) × String × Datum} (hq : q ∈ fields.zip parts) : q.2.1 = q.1.1 := by
  obtain ⟨i, hi⟩ := List.getElem?_of_mem hq
  obtain ⟨hfield, hpart⟩ := List.getElem?_zip_eq_some.1 hi
  have hname := congrArg (·[i]?) hnames
  simpa [hfield, hpart] using hname

theorem readsAs_record (hfields : (fields.map (·.1)).Nodup)
    (hnames : parts.map (·.1) = fields.map (·.1))
    (hparts : ∀ p ∈ fields.zip parts, ReadsAs p.1.2 p.2.2 (f p.2.2)) :
    ReadsAs (.record title fields) (.record title parts)
      (.record title (parts.map fun p => (p.1, f p.2))) := by
  have hwrites : ∀ p ∈ parts, p.2.Writes := by
    intro p hp
    obtain ⟨q, hq, rfl⟩ := exists_mem_zip hnames hp
    exact (hparts q hq).1
  have hmembers : ∀ p ∈ parts,
      Value.member? (Value.sortMembers (parts.map Datum.fieldMember)) p.1 = some p.2.toWire :=
    fun p hp => member?_fieldMember hfields hnames hp
  refine .intro (Datum.encode_record hwrites) fun label => ?_
  simp only [WireType.decode_record, Value.ofMembers, structMembers, bind, Except.bind,
    decodeFields_eq hnames hparts hmembers]
  rfl

end Fields

/-! ## All types -/

theorem wellFormed_map {key : KeyType} {value : WireType} :
    (WireType.map key value).WellFormed ↔ key.toWireType.WellFormed ∧ value.WellFormed := by
  cases key <;> simp [WireType.WellFormed, KeyType.toWireType]

theorem wellFormedFields_iff {fields : List (String × WireType)} :
    WireType.WellFormedFields fields ↔ ∀ f ∈ fields, f.2.WellFormed := by
  induction fields with
  | nil => simp [WireType.WellFormedFields]
  | cons f rest ih => simp [WireType.WellFormedFields, ih]

/-- A value in range of a well-formed type reads back as it was. -/
theorem HasType.roundTrips {t : WireType} {d : Datum} (h : HasType t d) (ht : t.WellFormed)
    (hd : d.InRange) : ReadsAs t d d := by
  induction h with
  | text s => exact .intro (fun _ => rfl) fun _ => rfl
  | integer n => exact readsAs_integer n
  | real x => exact readsAs_real hd
  | flag b => exact .intro (fun _ => rfl) fun _ => rfl
  | instant t =>
    obtain ⟨hnanos, hlow, hhigh⟩ := hd
    have hyear : t.FourDigitYear := Instant.fourDigitYear_iff.2 ⟨by omega, hhigh⟩
    have hread := readsAs_instant hyear (.inl (by omega))
    rwa [Instant.toSecond_of_nanos hnanos] at hread
  | nothing => exact .intro (fun _ => rfl) fun _ => rfl
  | wire v => exact .intro (fun _ => rfl) fun _ => rfl
  | reference className id =>
    exact .intro (fun _ => rfl) fun _ => rfl
  | label h => exact readsAs_label ht h
  | list h ih =>
    have hitems := Datum.inRangeItems_iff.1 hd
    have hread := readsAs_list (f := id) fun d hd => ih d hd ht (hitems d hd)
    rwa [List.map_id] at hread
  | set h hsorted ih =>
    have hitems := Datum.inRangeItems_iff.1 hd
    have hread := readsAs_set (f := id) fun d hd => ih d hd ht (hitems d hd)
    rwa [List.map_id, Datum.sortedSet_eq_self hsorted] at hread
  | @map key value entries hkeys hvalues hsorted _ ih =>
    obtain ⟨hkey, hvalue⟩ := wellFormed_map.1 ht
    have hentries := Datum.inRangeEntries_iff.1 hd
    have hread := readsAs_map (f := id) hkey hkeys (fun e he => ih e he hvalue (hentries e he)) hsorted
    rwa [show (entries.map fun e => (e.1, id e.2)) = entries from List.map_id _] at hread
  | @record title fields parts hnames hparts ih =>
    obtain ⟨hfields, htypes⟩ := ht
    have htypes := wellFormedFields_iff.1 htypes
    have hinRange := Datum.inRangeFields_iff.1 hd
    have hread : ReadsAs _ (.record title parts) _ :=
      readsAs_record (f := id) hfields hnames fun p hp => by
        obtain ⟨hf, hp'⟩ := List.of_mem_zip (show (p.1, p.2) ∈ _ from hp)
        exact ih p hp (htypes _ hf) (hinRange _ hp')
    rwa [show (parts.map fun p => (p.1, id p.2)) = parts from List.map_id _] at hread

end PoolClient.Schema
