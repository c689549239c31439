import PoolClient.Proofs.Outcomes
import PoolClient.Proofs.Sorting
/-!
# What can be read

Reading a wire value as a type gives a value of the type whose dates are proper instants
(`WireType.yields_of_decode`). The type must be well formed, and no enumeration in it may have an
empty label, since that is the label of a field that is left out (`WireType.yields_zero`).
-/

namespace PoolClient.Schema

open Time

/-! ## Parts that were read -/

section

variable {f : String → Value → Except CodecError Datum} {label : String}

theorem decodeItems_eq_mapM (i : Nat) (vs : List Value) :
    decodeItems f label i vs = (vs.zipIdx i).mapM fun p => f (itemLabel label p.2) p.1 := by
  induction vs generalizing i with
  | nil => rfl
  | cons v rest ih =>
    rw [List.zipIdx_cons, mapM_cons_eq, ← ih, decodeItems]
    cases f (itemLabel label i) v <;> rfl

theorem decodeItems_ok {i : Nat} {vs : List Value} {items : List Datum}
    (h : decodeItems f label i vs = .ok items) : ∀ d ∈ items, ∃ v l, f l v = .ok d := by
  rw [decodeItems_eq_mapM] at h
  intro d hd
  obtain ⟨p, -, hp⟩ := exists_of_mapM_eq_ok h hd
  exact ⟨p.1, _, hp⟩

/-- The entry that a member is read as, its key before its value. -/
def readEntry (key : KeyType) (f : String → Value → Except CodecError Datum) (label : String)
    (m : String × Value) : Except CodecError (Datum × Datum) :=
  key.decode label m.1 >>= fun k => (f label m.2).map (k, ·)

theorem decodeEntries_eq_mapM (key : KeyType) (members : List (String × Value)) :
    decodeEntries key f label members =
      members.mapM fun m => readEntry key f (entryLabel label m.1) m := by
  induction members with
  | nil => rfl
  | cons m rest ih =>
    rw [mapM_cons_eq, ← ih, decodeEntries, readEntry]
    cases key.decode (entryLabel label m.1) m.1 with
    | error e => rfl
    | ok k => cases f (entryLabel label m.1) m.2 <;> rfl

theorem decodeEntries_ok {key : KeyType} {members : List (String × Value)}
    {entries : List (Datum × Datum)} (h : decodeEntries key f label members = .ok entries) :
    ∀ e ∈ entries, (∃ name l, key.decode l name = .ok e.1) ∧ ∃ v l, f l v = .ok e.2 := by
  rw [decodeEntries_eq_mapM] at h
  intro e he
  obtain ⟨m, -, hm⟩ := exists_of_mapM_eq_ok h he
  obtain ⟨k, hk, hm⟩ := bind_eq_ok hm
  obtain ⟨d, hd, rfl⟩ := map_eq_ok hm
  exact ⟨⟨m.1, _, hk⟩, m.2, _, hd⟩

theorem decodeFields_eq_mapM {title : String} {fields : List (String × WireType)}
    {members : List (String × Value)} :
    decodeFields title fields label members =
      fields.mapM fun f => (readField title label members f).map (f.1, ·) := by
  induction fields with
  | nil => rfl
  | cons f rest ih =>
    rw [mapM_cons_eq, ← ih, decodeFields_cons]
    cases readField title label members f <;> rfl

end

/-! ## Values that can be read -/

theorem Label.among_ofText (labels : List String) (text : String) :
    (Label.ofText labels text).Among labels := by
  unfold Label.ofText
  cases h : labels.findIdx? (· == text) with
  | none =>
    refine .inr ⟨rfl, fun hmem => ?_⟩
    simpa using List.findIdx?_eq_none_iff.1 h text hmem
  | some i =>
    obtain ⟨hi, heq, -⟩ := List.findIdx?_eq_some_iff_getElem.1 h
    refine .inl ⟨i, rfl, ?_⟩
    rw [List.getElem?_eq_getElem hi, beq_iff_eq.1 heq]

/-- Whether a datum is a date. -/
def Datum.isInstant : Datum → Bool
  | .instant _ => true
  | _ => false

/-- A value of the type whose dates are proper instants. -/
structure WireType.Yields (t : WireType) (d : Datum) : Prop where
  hasType : HasType t d
  proper : ∀ i, .instant i ∈ d.leaves → i.Proper

namespace WireType

/-- A value that has no parts and is no date. -/
theorem Yields.leaf {t : WireType} {d : Datum} (h : HasType t d) (hleaf : d.leaves = [d])
    (hd : d.isInstant = false) : t.Yields d := by
  refine ⟨h, fun i hi => ?_⟩
  rw [hleaf, List.mem_singleton] at hi
  rw [← hi] at hd
  cases hd

theorem Yields.instant {i : Instant} (h : i.Proper) : WireType.instant.Yields (.instant i) := by
  refine ⟨.instant i, fun j hj => ?_⟩
  cases List.mem_singleton.1 hj
  exact h

theorem Yields.list {item : WireType} {items : List Datum} (h : ∀ d ∈ items, item.Yields d) :
    (WireType.list item).Yields (.list items) := by
  refine ⟨.list fun d hd => (h d hd).hasType, fun i hi => ?_⟩
  obtain ⟨d, hd, hi⟩ := Datum.mem_itemLeaves.1 hi
  exact (h d hd).proper i hi

theorem Yields.set {item : WireType} {items : List Datum} (h : ∀ d ∈ items, item.Yields d) :
    (WireType.set item).Yields (.set (Datum.sortedSet items)) := by
  have htype : ∀ d ∈ items, HasType item d := fun d hd => (h d hd).hasType
  have hmem := Datum.mem_of_mem_sortedSet htype
  refine ⟨.set (fun d hd => htype d (hmem d hd)) (Datum.pairwise_sortedSet htype), fun i hi => ?_⟩
  obtain ⟨d, hd, hi⟩ := Datum.mem_itemLeaves.1 hi
  exact (h d (hmem d hd)).proper i hi

theorem Yields.map {key : KeyType} {value : WireType} {entries : List (Datum × Datum)}
    (hkeys : ∀ e ∈ entries, HasType key.toWireType e.1)
    (hvalues : ∀ e ∈ entries, value.Yields e.2) :
    (WireType.map key value).Yields (.map (Datum.sortedMap entries)) := by
  have hmem := Datum.mem_of_mem_sortedMap hkeys
  refine ⟨.map (fun e he => hkeys e (hmem e he)) (fun e he => (hvalues e (hmem e he)).hasType)
    (Datum.ascending_sortedMap hkeys), fun i hi => ?_⟩
  obtain ⟨e, he, hi⟩ := Datum.mem_entryLeaves.1 hi
  exact (hvalues e (hmem e he)).proper i hi

/-- Parts of a record for its fields, each of which can be read. -/
def YieldsFields (fields : List (String × WireType)) (parts : List (String × Datum)) : Prop :=
  parts.map (·.1) = fields.map (·.1) ∧ ∀ p ∈ fields.zip parts, p.1.2.Yields p.2.2

theorem YieldsFields.cons {name : String} {t : WireType} {d : Datum}
    {fields : List (String × WireType)} {parts : List (String × Datum)} (hd : t.Yields d)
    (h : YieldsFields fields parts) : YieldsFields ((name, t) :: fields) ((name, d) :: parts) :=
  ⟨congrArg (name :: ·) h.1, List.forall_mem_cons.2 ⟨hd, h.2⟩⟩

theorem YieldsFields.record {title : String} {fields : List (String × WireType)}
    {parts : List (String × Datum)} (h : YieldsFields fields parts) :
    (WireType.record title fields).Yields (.record title parts) := by
  refine ⟨.record h.1 fun p hp => (h.2 p hp).hasType, fun i hi => ?_⟩
  obtain ⟨p, hp, hi⟩ := Datum.mem_fieldLeaves.1 hi
  obtain ⟨q, hq, rfl⟩ := exists_mem_zip h.1 hp
  exact (h.2 q hq).proper i hi

/-! ## Types without empty labels -/

mutual

/-- The lists of labels of the enumerations in a type, but for keys. -/
def labelLists : WireType → List (List String)
  | .label labels => [labels]
  | .list item => item.labelLists
  | .set item => item.labelLists
  | .map _ value => value.labelLists
  | .record _ fields => fieldLabelLists fields
  | _ => []

/-- The lists of labels of the enumerations in some fields. -/
def fieldLabelLists : List (String × WireType) → List (List String)
  | [] => []
  | (_, t) :: rest => t.labelLists ++ fieldLabelLists rest

end

/-- A well-formed type in which no enumeration has an empty label. -/
def HasZero (t : WireType) : Prop :=
  t.WellFormed ∧ ∀ labels ∈ t.labelLists, "" ∉ labels

/-- The same for each of some fields. -/
def HaveZero (fields : List (String × WireType)) : Prop :=
  WellFormedFields fields ∧ ∀ labels ∈ fieldLabelLists fields, "" ∉ labels

theorem HaveZero.of_cons {name : String} {t : WireType} {rest : List (String × WireType)}
    (h : HaveZero ((name, t) :: rest)) : t.HasZero ∧ HaveZero rest := by
  obtain ⟨⟨ht, hrest⟩, hlabels⟩ := h
  rw [fieldLabelLists, List.forall_mem_append] at hlabels
  exact ⟨⟨ht, hlabels.1⟩, hrest, hlabels.2⟩

theorem HasZero.fields {title : String} {fields : List (String × WireType)}
    (h : (WireType.record title fields).HasZero) : HaveZero fields :=
  ⟨h.1.2, h.2⟩

mutual

/-- What stands for a field that is left out is a value of its type. -/
theorem yields_zero : ∀ {t : WireType}, t.HasZero → t.Yields t.zero
  | .text, _ => .leaf (.text _) rfl rfl
  | .integer, _ => .leaf (.integer _) rfl rfl
  | .real, _ => .leaf (.real _) rfl rfl
  | .flag, _ => .leaf (.flag _) rfl rfl
  | .instant, _ => .instant (.inl (by decide))
  | .nothing, _ => .leaf .nothing rfl rfl
  | .wire, _ => .leaf (.wire _) rfl rfl
  | .reference _, _ => .leaf (.reference _ _) rfl rfl
  | .label labels, h => .leaf (.label (.inr ⟨rfl, h.2 labels List.mem_cons_self⟩)) rfl rfl
  | .list _, _ => .list (List.forall_mem_nil _)
  | .set _, _ => .set (List.forall_mem_nil _)
  | .map _ _, _ => .map (List.forall_mem_nil _) (List.forall_mem_nil _)
  | .record _ _, h => (yields_zeroFields h.fields).record

theorem yields_zeroFields : ∀ {fields : List (String × WireType)}, HaveZero fields →
    YieldsFields fields (zeroFields fields)
  | [], _ => ⟨rfl, List.forall_mem_nil _⟩
  | (_, _) :: _, h => .cons (yields_zero h.of_cons.1) (yields_zeroFields h.of_cons.2)

end

/-! ## All types -/

/-- A key that was read is a value of its type. -/
theorem hasType_of_decode_key {key : KeyType} {label name : String} {k : Datum}
    (h : key.decode label name = .ok k) : HasType key.toWireType k := by
  cases key with
  | text =>
    cases h
    exact .text name
  | integer =>
    obtain ⟨n, -, rfl⟩ := map_eq_ok h
    exact .integer n
  | reference className =>
    cases h
    exact .reference className name
  | label labels =>
    cases h
    exact .label (Label.among_ofText labels name)

/-! ### Types without parts -/

section

variable {label : String} {v : Value} {d : Datum}

theorem exists_of_decode_text (h : text.decode label v = .ok d) :
    ∃ s, v = .string s ∧ d = .text s := by
  cases v with
  | string s => exact ⟨s, rfl, (Except.ok.inj h).symm⟩
  | _ => cases h

theorem exists_of_decode_integer (h : integer.decode label v = .ok d) : ∃ n, d = .integer n := by
  cases v with
  | int n => exact ⟨n, (Except.ok.inj h).symm⟩
  | string s =>
    obtain ⟨n, -, rfl⟩ := map_eq_ok h
    exact ⟨n, rfl⟩
  | _ => cases h

theorem exists_of_decode_real (h : real.decode label v = .ok d) : ∃ x, d = .real x := by
  simp only [decode] at h
  split at h
  · exact ⟨_, (Except.ok.inj h).symm⟩
  · exact ⟨_, (Except.ok.inj h).symm⟩
  · split at h
    · exact ⟨_, (Except.ok.inj h).symm⟩
    · cases h
  · cases h

theorem exists_of_decode_flag (h : flag.decode label v = .ok d) :
    ∃ b, v = .boolean b ∧ d = .flag b := by
  cases v with
  | boolean b => exact ⟨b, rfl, (Except.ok.inj h).symm⟩
  | _ => cases h

theorem exists_of_decode_instant (h : instant.decode label v = .ok d) :
    ∃ i : Instant, i.Proper ∧ d = .instant i := by
  have hread : ∃ text, instantOfText label text = .ok d := by
    simp only [decode] at h
    split at h
    · exact ⟨_, h⟩
    · exact ⟨_, h⟩
    · cases h
  obtain ⟨text, hread⟩ := hread
  unfold instantOfText at hread
  split at hread
  · rename_i i hi
    exact ⟨i, Instant.proper_of_read? hi, (Except.ok.inj hread).symm⟩
  · cases hread

theorem eq_of_decode_nothing (h : nothing.decode label v = .ok d) : d = .nothing := by
  simp only [decode] at h
  split at h
  · exact (Except.ok.inj h).symm
  · split at h
    · exact (Except.ok.inj h).symm
    · cases h

theorem exists_of_decode_reference {className : String}
    (h : (reference className).decode label v = .ok d) :
    ∃ id, v = .string id ∧ d = .reference id := by
  cases v with
  | string id => exact ⟨id, rfl, (Except.ok.inj h).symm⟩
  | _ => cases h

theorem exists_of_decode_label {labels : List String}
    (h : (WireType.label labels).decode label v = .ok d) :
    ∃ s, v = .string s ∧ d = .label (.ofText labels s) := by
  cases v with
  | string s => exact ⟨s, rfl, (Except.ok.inj h).symm⟩
  | _ => cases h

end

/-! ### Types with parts -/

mutual

/-- What was read as a type is a value of the type, and its dates are proper instants. -/
theorem yields_of_decode : ∀ {t : WireType} {label : String} {v : Value} {d : Datum}, t.HasZero →
    t.decode label v = .ok d → t.Yields d
  | .text, _, _, _, _, h => by
    obtain ⟨s, -, rfl⟩ := exists_of_decode_text h
    exact .leaf (.text s) rfl rfl
  | .integer, _, _, _, _, h => by
    obtain ⟨n, rfl⟩ := exists_of_decode_integer h
    exact .leaf (.integer n) rfl rfl
  | .real, _, _, _, _, h => by
    obtain ⟨x, rfl⟩ := exists_of_decode_real h
    exact .leaf (.real x) rfl rfl
  | .flag, _, _, _, _, h => by
    obtain ⟨b, -, rfl⟩ := exists_of_decode_flag h
    exact .leaf (.flag b) rfl rfl
  | .instant, _, _, _, _, h => by
    obtain ⟨i, hproper, rfl⟩ := exists_of_decode_instant h
    exact .instant hproper
  | .nothing, _, _, _, _, h => by
    obtain rfl := eq_of_decode_nothing h
    exact .leaf .nothing rfl rfl
  | .wire, _, v, _, _, h => by
    cases h
    exact .leaf (.wire v) rfl rfl
  | .reference className, _, _, _, _, h => by
    obtain ⟨id, -, rfl⟩ := exists_of_decode_reference h
    exact .leaf (.reference className id) rfl rfl
  | .label labels, _, _, _, _, h => by
    obtain ⟨s, -, rfl⟩ := exists_of_decode_label h
    exact .leaf (.label (Label.among_ofText labels s)) rfl rfl
  | .list item, _, _, _, hitem, h => by
    obtain ⟨vs, -, h⟩ := bind_eq_ok h
    obtain ⟨items, hitems, h⟩ := bind_eq_ok h
    cases h
    refine .list fun d hd => ?_
    obtain ⟨v, l, hdecode⟩ := decodeItems_ok hitems d hd
    exact yields_of_decode (t := item) hitem hdecode
  | .set item, _, _, _, hitem, h => by
    obtain ⟨vs, -, h⟩ := bind_eq_ok h
    obtain ⟨items, hitems, h⟩ := bind_eq_ok h
    cases h
    refine .set fun d hd => ?_
    obtain ⟨v, l, hdecode⟩ := decodeItems_ok hitems d hd
    exact yields_of_decode (t := item) hitem hdecode
  | .map key value, _, _, _, hmap, h => by
    obtain ⟨members, -, h⟩ := bind_eq_ok h
    obtain ⟨entries, hentries, h⟩ := bind_eq_ok h
    cases h
    have hvalue : value.HasZero := ⟨(wellFormed_map.1 hmap.1).2, hmap.2⟩
    refine .map (fun e he => ?_) fun e he => ?_
    · obtain ⟨⟨name, l, hkey⟩, -⟩ := decodeEntries_ok hentries e he
      exact hasType_of_decode_key hkey
    · obtain ⟨-, v, l, hdecode⟩ := decodeEntries_ok hentries e he
      exact yields_of_decode hvalue hdecode
  | .record title fields, _, _, _, hrecord, h => by
    obtain ⟨members, -, h⟩ := bind_eq_ok h
    obtain ⟨parts, hparts, h⟩ := bind_eq_ok h
    cases h
    exact (yields_of_decodeFields hrecord.fields hparts).record

theorem yields_of_decodeFields : ∀ {title : String} {fields : List (String × WireType)}
    {label : String} {members : List (String × Value)} {parts : List (String × Datum)},
    HaveZero fields → decodeFields title fields label members = .ok parts →
      YieldsFields fields parts
  | _, [], _, _, _, _, h => by
    cases h
    exact ⟨rfl, List.forall_mem_nil _⟩
  | _, (_, t) :: _, _, _, _, hfields, h => by
    obtain ⟨ht, hrest⟩ := hfields.of_cons
    rw [decodeFields_cons] at h
    obtain ⟨d, hd, h⟩ := bind_eq_ok h
    obtain ⟨parts, hparts, rfl⟩ := map_eq_ok h
    refine .cons ?_ (yields_of_decodeFields hrest hparts)
    rw [readField] at hd
    split at hd
    · exact Except.ok.inj hd ▸ yields_zero ht
    · exact yields_of_decode ht hd

end

end WireType

end PoolClient.Schema
