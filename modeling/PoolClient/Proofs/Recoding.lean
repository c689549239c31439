import PoolClient.Proofs.Catalogue
/-!
# What was read, written back

A value that was read from a message can be written again, if its doubles are finite, and what is
written reads back as the same value to the second, if the years of its dates have four digits. A
date with another year is written with a sign that the reader does not take, and then the whole
value is refused (`encode_of_decode`). `Rereads` says both of one value. It is shown for each
former of types from the same of its parts.
-/

namespace PoolClient.Schema

open Text Time

open scoped List

/-! ## Dates to the second -/

namespace Datum

mutual

/-- The datum with its dates cut down to the second. Sets are built anew, since dates that differ
in a part of a second only fall together. -/
def toSeconds : Datum → Datum
  | .instant t => .instant t.toSecond
  | .list items => .list (itemsToSeconds items)
  | .set items => .set (sortedSet (itemsToSeconds items))
  | .map entries => .map (entriesToSeconds entries)
  | .record title parts => .record title (partsToSeconds parts)
  | d => d

/-- Every item with its dates cut down. -/
def itemsToSeconds : List Datum → List Datum
  | [] => []
  | d :: rest => d.toSeconds :: itemsToSeconds rest

/-- Every value of an entry with its dates cut down. -/
def entriesToSeconds : List (Datum × Datum) → List (Datum × Datum)
  | [] => []
  | (k, d) :: rest => (k, d.toSeconds) :: entriesToSeconds rest

/-- Every part of a record with its dates cut down. -/
def partsToSeconds : List (String × Datum) → List (String × Datum)
  | [] => []
  | (name, d) :: rest => (name, d.toSeconds) :: partsToSeconds rest

end

theorem itemsToSeconds_eq (items : List Datum) : itemsToSeconds items = items.map toSeconds := by
  induction items with
  | nil => rfl
  | cons d rest ih => rw [itemsToSeconds, ih, List.map_cons]

theorem entriesToSeconds_eq (entries : List (Datum × Datum)) :
    entriesToSeconds entries = entries.map fun e => (e.1, e.2.toSeconds) := by
  induction entries with
  | nil => rfl
  | cons e rest ih => rw [entriesToSeconds, ih, List.map_cons]

theorem partsToSeconds_eq (parts : List (String × Datum)) :
    partsToSeconds parts = parts.map fun p => (p.1, p.2.toSeconds) := by
  induction parts with
  | nil => rfl
  | cons p rest ih => rw [partsToSeconds, ih, List.map_cons]

/-- The years of all dates have four digits. -/
def FourDigitYears (d : Datum) : Prop :=
  ∀ t, .instant t ∈ d.leaves → t.FourDigitYear

/-- An error that names a date in the datum whose year does not have four digits. -/
def Misdated (d : Datum) (e : CodecError) : Prop :=
  ∃ t, .instant t ∈ d.leaves ∧ ¬t.FourDigitYear ∧ e.misfit = .invalidTimestamp t.text

theorem Misdated.of_part {d part : Datum} {e : CodecError} (h : part.Misdated e)
    (hpart : ∀ leaf ∈ part.leaves, leaf ∈ d.leaves) : d.Misdated e := by
  obtain ⟨t, ht, hyear, he⟩ := h
  exact ⟨t, hpart _ ht, hyear, he⟩

/-- If not all years have four digits, then those of some part have not. -/
theorem exists_part {α : Type} {d : Datum} {f : α → Datum} {parts : List α}
    (h : ¬d.FourDigitYears) (hparts : ∀ leaf ∈ d.leaves, ∃ a ∈ parts, leaf ∈ (f a).leaves) :
    ∃ a ∈ parts, ¬(f a).FourDigitYears := by
  obtain ⟨t, ht⟩ := Classical.not_forall.1 h
  obtain ⟨hmem, hyear⟩ := Classical.not_imp.1 ht
  obtain ⟨a, ha, hmem⟩ := hparts _ hmem
  exact ⟨a, ha, fun hall => hyear (hall t hmem)⟩

end Datum

/-! ## Data that were written -/

/-- A datum is written, whatever the label. If its years have four digits, this reads back as the
datum to the second, whatever the label; if not, it is refused for one of the other years. -/
structure Rereads (t : WireType) (d : Datum) : Prop where
  writes : d.Writes
  reads : d.FourDigitYears → ∀ label, t.decode label d.toWire = .ok d.toSeconds
  refuses : ¬d.FourDigitYears → ∀ label, ∃ e, t.decode label d.toWire = .error e ∧ d.Misdated e

namespace Rereads

theorem readsAs {t : WireType} {d : Datum} (h : Rereads t d) (hd : d.FourDigitYears) :
    ReadsAs t d d.toSeconds :=
  ⟨h.writes, h.reads hd⟩

/-- What was written is refused for a year, if at all. -/
theorem misdated {t : WireType} {d : Datum} (h : Rereads t d) {label : String} {e : CodecError}
    (he : t.decode label d.toWire = .error e) : d.Misdated e := by
  by_cases hd : d.FourDigitYears
  · rw [h.reads hd] at he
    cases he
  · obtain ⟨e', he', hmisdated⟩ := h.refuses hd label
    rw [he] at he'
    cases he'
    exact hmisdated

/-- A datum without dates. -/
theorem of_readsAs {t : WireType} {d : Datum} (h : ReadsAs t d d) (hleaf : d.leaves = [d])
    (hinstant : d.isInstant = false) (hseconds : d.toSeconds = d) : Rereads t d := by
  have hyears : d.FourDigitYears := by
    intro t ht
    rw [hleaf, List.mem_singleton] at ht
    rw [← ht] at hinstant
    cases hinstant
  refine ⟨h.1, fun _ => ?_, fun hnot => absurd hyears hnot⟩
  rw [hseconds]
  exact h.2

theorem instant {t : Instant} (h : t.Proper) : Rereads .instant (.instant t) := by
  have hmem : .instant t ∈ (Datum.instant t).leaves := List.mem_singleton_self _
  refine ⟨.intro fun _ => rfl, fun hyear => (readsAs_instant (hyear t hmem) h).2,
    fun hyears label => ?_⟩
  have hyear : ¬t.FourDigitYear := by
    refine fun hyear => hyears fun t' ht' => ?_
    cases List.mem_singleton.1 ht'
    exact hyear
  have htrim : trimmed t.text = t.text := by
    rw [trimmed, (plainText_text t).trim_eq, String.ofList_toList]
  have hdecode : WireType.instant.decode label (.dateTime t.text) =
      .error ⟨label, .invalidTimestamp t.text⟩ := by
    have hread : WireType.instant.decode label (.dateTime t.text) = instantOfText label t.text := rfl
    rw [hread, instantOfText, read?_text_eq_none hyear, htrim]
  exact ⟨_, hdecode, t, hmem, hyear, rfl⟩

/-! ### Sequences and sets -/

section Items

variable {item : WireType} {items : List Datum} (h : ∀ d ∈ items, Rereads item d)

include h

theorem items_readsAs (hyears : (Datum.list items).FourDigitYears) :
    ∀ d ∈ items, ReadsAs item d d.toSeconds :=
  fun d hd => (h d hd).readsAs fun t ht => hyears t (Datum.mem_itemLeaves.2 ⟨d, hd, ht⟩)

theorem decodeItems_misdated (hyears : ∃ d ∈ items, ¬d.FourDigitYears) (label : String) :
    ∃ e, decodeItems item.decode label 0 (items.map Datum.toWire) = .error e ∧
      (Datum.list items).Misdated e := by
  rw [decodeItems_eq_mapM]
  refine exists_mapM_eq_error ?_ fun p hp e he => ?_
  · obtain ⟨d, hd, hyears⟩ := hyears
    obtain ⟨i, hi⟩ := List.getElem?_of_mem (List.mem_map_of_mem (f := Datum.toWire) hd)
    obtain ⟨e, he, -⟩ := (h d hd).refuses hyears (itemLabel label i)
    exact ⟨(d.toWire, i), List.mk_mem_zipIdx_iff_getElem?.2 hi, e, he⟩
  · have hvalue := List.mem_of_getElem? (List.mem_zipIdx_iff_getElem?.1 hp)
    obtain ⟨d, hd, heq⟩ := List.mem_map.1 hvalue
    rw [← heq] at he
    exact ((h d hd).misdated he).of_part fun _ hl => Datum.mem_itemLeaves.2 ⟨d, hd, hl⟩

theorem list : Rereads (.list item) (.list items) := by
  have hwrites := Datum.encode_list fun d hd => (h d hd).writes
  refine ⟨.intro hwrites, fun hyears => ?_, fun hyears label => ?_⟩
  · rw [Datum.toSeconds, Datum.itemsToSeconds_eq]
    exact (readsAs_list (items_readsAs h hyears)).2
  · have hsome := Datum.exists_part (f := id) hyears fun _ => Datum.mem_itemLeaves.1
    obtain ⟨e, he, hmisdated⟩ := decodeItems_misdated h hsome label
    rw [Datum.toWire_eq hwrites]
    refine ⟨e, ?_, hmisdated⟩
    simp only [WireType.decode_list, arrayItems, bind, Except.bind, he]

theorem set : Rereads (.set item) (.set items) := by
  have hwrites := Datum.encode_set fun d hd => (h d hd).writes
  refine ⟨.intro hwrites, fun hyears => ?_, fun hyears label => ?_⟩
  · rw [Datum.toSeconds, Datum.itemsToSeconds_eq]
    exact (readsAs_set (items_readsAs h hyears)).2
  · have hsome := Datum.exists_part (f := id) hyears fun _ => Datum.mem_itemLeaves.1
    obtain ⟨e, he, hmisdated⟩ := decodeItems_misdated h hsome label
    rw [Datum.toWire_eq hwrites]
    refine ⟨e, ?_, hmisdated⟩
    simp only [WireType.decode_set, arrayItems, bind, Except.bind, he]

end Items

/-! ### Mappings -/

section Entries

variable {key : KeyType} {value : WireType} {entries : List (Datum × Datum)}

/-- Some members, of which one is refused and the others are read or refused alike. -/
theorem decodeEntries_error {P : CodecError → Prop} {members : List (String × Value)}
    (hkeys : ∀ m ∈ members, ∀ label, ∃ k, key.decode label m.1 = .ok k)
    (herrors : ∀ m ∈ members, ∀ label e, value.decode label m.2 = .error e → P e)
    (hsome : ∃ m ∈ members, ∀ label, ∃ e, value.decode label m.2 = .error e) (label : String) :
    ∃ e, decodeEntries key value.decode label members = .error e ∧ P e := by
  have hread : ∀ m ∈ members, ∀ label e, readEntry key value.decode label m = .error e ↔
      value.decode label m.2 = .error e := by
    intro m hm label e
    obtain ⟨k, hk⟩ := hkeys m hm label
    rw [readEntry, hk]
    exact ⟨map_eq_error, fun he => congrArg (Except.map (k, ·)) he⟩
  rw [decodeEntries_eq_mapM]
  refine exists_mapM_eq_error ?_ fun m hm e he => herrors m hm _ e ((hread m hm _ e).1 he)
  obtain ⟨m, hm, hrefused⟩ := hsome
  obtain ⟨e, he⟩ := hrefused (entryLabel label m.1)
  exact ⟨m, hm, e, (hread m hm _ e).2 he⟩

theorem decodeEntries_misdated (hkey : key.toWireType.WellFormed)
    (hkeys : ∀ e ∈ entries, HasType key.toWireType e.1) (h : ∀ e ∈ entries, Rereads value e.2)
    (hsorted : Datum.Ascending entries) (hyears : ∃ e ∈ entries, ¬e.2.FourDigitYears)
    (label : String) :
    ∃ e, decodeEntries key value.decode label (Value.sortMembers (entries.map Datum.memberOf)) =
      .error e ∧ (Datum.map entries).Misdated e := by
  have hperm := Value.sortMembers_perm (nodup_memberOf hkey hkeys hsorted)
  have hmember : ∀ m ∈ Value.sortMembers (entries.map Datum.memberOf),
      ∃ e ∈ entries, Datum.memberOf e = m :=
    fun m hm => List.mem_map.1 (hperm.mem_iff.1 hm)
  refine decodeEntries_error (fun m hm label => ?_) (fun m hm label error herror => ?_) ?_ label
  · obtain ⟨e, he, rfl⟩ := hmember m hm
    exact ⟨e.1, decode_keyText hkey (hkeys e he) label⟩
  · obtain ⟨e, he, rfl⟩ := hmember m hm
    exact ((h e he).misdated herror).of_part fun _ hl => Datum.mem_entryLeaves.2 ⟨e, he, hl⟩
  · obtain ⟨e, he, hyears⟩ := hyears
    refine ⟨Datum.memberOf e, hperm.mem_iff.2 (List.mem_map_of_mem he), fun label => ?_⟩
    obtain ⟨error, herror, -⟩ := (h e he).refuses hyears label
    exact ⟨error, herror⟩

theorem map (hkey : key.toWireType.WellFormed)
    (hkeys : ∀ e ∈ entries, HasType key.toWireType e.1) (h : ∀ e ∈ entries, Rereads value e.2)
    (hsorted : Datum.Ascending entries) : Rereads (.map key value) (.map entries) := by
  have hwrites := Datum.encode_map fun e he => (h e he).writes
  refine ⟨.intro hwrites, fun hyears => ?_, fun hyears label => ?_⟩
  · have hvalues : ∀ e ∈ entries, ReadsAs value e.2 e.2.toSeconds := fun e he =>
      (h e he).readsAs fun t ht => hyears t (Datum.mem_entryLeaves.2 ⟨e, he, ht⟩)
    rw [Datum.toSeconds, Datum.entriesToSeconds_eq]
    exact (readsAs_map hkey hkeys hvalues hsorted).2
  · have hsome := Datum.exists_part (f := Prod.snd) hyears fun _ => Datum.mem_entryLeaves.1
    obtain ⟨e, he, hmisdated⟩ := decodeEntries_misdated hkey hkeys h hsorted hsome label
    rw [Datum.toWire_eq hwrites]
    refine ⟨e, ?_, hmisdated⟩
    simp only [WireType.decode_map, Value.ofMembers, structMembers, bind, Except.bind, he]

end Entries

/-! ### Records -/

section Fields

variable {title : String} {fields : List (String × WireType)} {parts : List (String × Datum)}

theorem decodeFields_misdated {members : List (String × Value)}
    (hnames : parts.map (·.1) = fields.map (·.1)) (h : ∀ p ∈ fields.zip parts, Rereads p.1.2 p.2.2)
    (hmembers : ∀ p ∈ parts, Value.member? members p.1 = some p.2.toWire)
    (hyears : ∃ p ∈ parts, ¬p.2.FourDigitYears) (title label : String) :
    ∃ e, decodeFields title fields label members = .error e ∧
      (Datum.record title parts).Misdated e := by
  have hread : ∀ q ∈ fields.zip parts, ∀ e,
      (readField title label members q.1).map (q.1.1, ·) = .error e ↔
        q.1.2.decode (fieldLabel label title q.1.1) q.2.2.toWire = .error e := by
    intro q hq e
    have hmember := hmembers q.2 (List.of_mem_zip hq).2
    rw [name_of_mem_zip hnames hq] at hmember
    rw [readField_of_member hmember]
    exact ⟨map_eq_error, fun he => congrArg (Except.map (q.1.1, ·)) he⟩
  rw [decodeFields_eq_mapM]
  refine exists_mapM_eq_error ?_ fun f hf e he => ?_
  · obtain ⟨p, hp, hyears⟩ := hyears
    obtain ⟨q, hq, rfl⟩ := exists_mem_zip hnames hp
    obtain ⟨e, he, -⟩ := (h q hq).refuses hyears (fieldLabel label title q.1.1)
    exact ⟨q.1, (List.of_mem_zip hq).1, e, (hread q hq e).2 he⟩
  · obtain ⟨q, hq, rfl⟩ := exists_mem_zip_of_field hnames hf
    exact ((h q hq).misdated ((hread q hq e).1 he)).of_part fun _ hl =>
      Datum.mem_fieldLeaves.2 ⟨q.2, (List.of_mem_zip hq).2, hl⟩

theorem record (hfields : (fields.map (·.1)).Nodup) (hnames : parts.map (·.1) = fields.map (·.1))
    (h : ∀ p ∈ fields.zip parts, Rereads p.1.2 p.2.2) :
    Rereads (.record title fields) (.record title parts) := by
  have hwrites : ∀ label, (Datum.record title parts).encode label =
      .ok (.ofMembers (parts.map Datum.fieldMember)) := by
    refine Datum.encode_record fun p hp => ?_
    obtain ⟨q, hq, rfl⟩ := exists_mem_zip hnames hp
    exact (h q hq).writes
  refine ⟨.intro hwrites, fun hyears => ?_, fun hyears label => ?_⟩
  · rw [Datum.toSeconds, Datum.partsToSeconds_eq]
    refine (readsAs_record hfields hnames fun p hp => (h p hp).readsAs fun t ht => ?_).2
    exact hyears t (Datum.mem_fieldLeaves.2 ⟨p.2, (List.of_mem_zip hp).2, ht⟩)
  · have hsome := Datum.exists_part (f := Prod.snd) hyears fun _ => Datum.mem_fieldLeaves.1
    obtain ⟨e, he, hmisdated⟩ := decodeFields_misdated hnames h
      (fun p hp => member?_fieldMember hfields hnames hp) hsome title label
    rw [Datum.toWire_eq hwrites]
    refine ⟨e, ?_, hmisdated⟩
    simp only [WireType.decode_record, Value.ofMembers, structMembers, bind, Except.bind, he]

end Fields

end Rereads

/-! ## All types -/

/-- A leaf that can be written and that may have been read. -/
def Datum.Regular : Datum → Prop
  | .real x => x.isFinite = true
  | .instant t => t.Proper
  | _ => True

theorem HasType.rereads {t : WireType} {d : Datum} (h : HasType t d) (ht : t.WellFormed)
    (hd : ∀ leaf ∈ d.leaves, leaf.Regular) : Rereads t d := by
  induction h with
  | text s => exact .of_readsAs (.intro (fun _ => rfl) fun _ => rfl) rfl rfl rfl
  | integer n => exact .of_readsAs (readsAs_integer n) rfl rfl rfl
  | real x => exact .of_readsAs (readsAs_real (hd _ List.mem_cons_self)) rfl rfl rfl
  | flag b => exact .of_readsAs (.intro (fun _ => rfl) fun _ => rfl) rfl rfl rfl
  | instant t => exact .instant (hd _ List.mem_cons_self)
  | nothing => exact .of_readsAs (.intro (fun _ => rfl) fun _ => rfl) rfl rfl rfl
  | wire v => exact .of_readsAs (.intro (fun _ => rfl) fun _ => rfl) rfl rfl rfl
  | reference className id => exact .of_readsAs (.intro (fun _ => rfl) fun _ => rfl) rfl rfl rfl
  | label h => exact .of_readsAs (readsAs_label ht h) rfl rfl rfl
  | list h ih =>
    exact .list fun d hmem => ih d hmem ht fun leaf hl => hd leaf (Datum.mem_itemLeaves.2 ⟨d, hmem, hl⟩)
  | set h _ ih =>
    exact .set fun d hmem => ih d hmem ht fun leaf hl => hd leaf (Datum.mem_itemLeaves.2 ⟨d, hmem, hl⟩)
  | map hkeys _ hsorted _ ih =>
    obtain ⟨hkey, hvalue⟩ := wellFormed_map.1 ht
    exact .map hkey hkeys (fun e he => ih e he hvalue fun leaf hl =>
      hd leaf (Datum.mem_entryLeaves.2 ⟨e, he, hl⟩)) hsorted
  | record hnames hparts ih =>
    obtain ⟨hfields, htypes⟩ := ht
    refine .record hfields hnames fun p hp => ?_
    obtain ⟨hfield, hpart⟩ := List.of_mem_zip (show (p.1, p.2) ∈ _ from hp)
    exact ih p hp (wellFormedFields_iff.1 htypes _ hfield) fun leaf hl =>
      hd leaf (Datum.mem_fieldLeaves.2 ⟨p.2, hpart, hl⟩)

/-- A value of a supported type that was read, with finite doubles. It can be written. If the years
of its dates have four digits, what is written reads back as the value to the second; if not, what
is written is refused for one of the other years. All this is so under any labels. -/
theorem encode_of_decode {t : WireType} (ht : Supported t) {label : String} {v : Value} {d : Datum}
    (h : t.decode label v = .ok d) (hfinite : ∀ x, .real x ∈ d.leaves → x.isFinite = true)
    (label' label'' : String) :
    ∃ w, d.encode label' = .ok w ∧
      (d.FourDigitYears → t.decode label'' w = .ok d.toSeconds) ∧
      (¬d.FourDigitYears → ∃ e, t.decode label'' w = .error e ∧ d.Misdated e) := by
  have hd := WireType.yields_of_decode ht.hasZero h
  have hregular : ∀ leaf ∈ d.leaves, leaf.Regular := by
    intro leaf hleaf
    cases leaf with
    | real x => exact hfinite x hleaf
    | instant i => exact hd.proper i hleaf
    | _ => trivial
  have hrereads := hd.hasType.rereads ht.wellFormed hregular
  exact ⟨d.toWire, hrereads.writes label', fun hyears => hrereads.reads hyears label'',
    fun hyears => hrereads.refuses hyears label''⟩

/-- Two dates that fall together when they are cut down to the second, and a date in the last hour
of the year 9999 of another zone, whose year in universal time is 10000. -/
theorem encode_of_decode_dates :
    let t := WireType.set .instant
    let d := Datum.set [.instant ⟨1704164645, 250000000⟩, .instant ⟨1704164645, 500000000⟩]
    let late := Datum.set [.instant ⟨253402302600, 0⟩]
    t.decode "a" (.array [.string "20240102T03:04:05.5Z",
        .dateTime "2024-01-02T04:04:05.25+01:00"]) = .ok d ∧
      (∃ w, d.encode "b" = .ok w ∧ t.decode "c" w = .ok (.set [.instant ⟨1704164645, 0⟩])) ∧
      t.decode "a" (.array [.string "9999-12-31T23:30:00-01:00"]) = .ok late ∧
      ∃ w e, late.encode "b" = .ok w ∧ w = .array [.dateTime "+100000101T00:30:00Z"] ∧
        t.decode "c" w = .error e ∧ e.misfit = .invalidTimestamp "+100000101T00:30:00Z" := by
  intro t d late
  have ht : Supported t := .set .instant .instant
  have hfirst : Instant.read? "20240102T03:04:05.5Z" = some ⟨1704164645, 500000000⟩ := by
    decide +kernel
  have hsecond : Instant.read? "2024-01-02T04:04:05.25+01:00" = some ⟨1704164645, 250000000⟩ := by
    decide +kernel
  have hlate : Instant.read? "9999-12-31T23:30:00-01:00" = some ⟨253402302600, 0⟩ := by
    decide +kernel
  have htext : Instant.text ⟨253402302600, 0⟩ = "+100000101T00:30:00Z" := by decide +kernel
  have hread : ∀ {text : String} {i : Instant} (label : String), Instant.read? text = some i →
      instantOfText label text = .ok (.instant i) := by
    intro text i label hread
    rw [instantOfText, hread]
  have hitems : decodeItems WireType.instant.decode "a" 0 [.string "20240102T03:04:05.5Z",
      .dateTime "2024-01-02T04:04:05.25+01:00"] =
        .ok [.instant ⟨1704164645, 500000000⟩, .instant ⟨1704164645, 250000000⟩] := by
    simp only [decodeItems, WireType.decode, hread _ hfirst, hread _ hsecond, Except.map]
  have hdecode : t.decode "a" (.array [.string "20240102T03:04:05.5Z",
      .dateTime "2024-01-02T04:04:05.25+01:00"]) = .ok d := by
    simp only [t, WireType.decode_set, arrayItems, bind, Except.bind, hitems]
    rfl
  have hitemsLate : decodeItems WireType.instant.decode "a" 0
      [.string "9999-12-31T23:30:00-01:00"] = .ok [.instant ⟨253402302600, 0⟩] := by
    simp only [decodeItems, WireType.decode, hread _ hlate, Except.map]
  have hdecodeLate : t.decode "a" (.array [.string "9999-12-31T23:30:00-01:00"]) = .ok late := by
    simp only [t, WireType.decode_set, arrayItems, bind, Except.bind, hitemsLate]
    rfl
  have hyears : d.FourDigitYears := by
    have hyear : Instant.FourDigitYear ⟨1704164645, 250000000⟩ ∧
        Instant.FourDigitYear ⟨1704164645, 500000000⟩ := by decide +kernel
    simpa [d, Datum.FourDigitYears, Datum.leaves, Datum.itemLeaves] using hyear
  have hyearsLate : ¬late.FourDigitYears := by
    have hyear : ¬Instant.FourDigitYear ⟨253402302600, 0⟩ := by decide +kernel
    simpa [late, Datum.FourDigitYears, Datum.leaves, Datum.itemLeaves] using hyear
  have hseconds : d.toSeconds = .set [.instant ⟨1704164645, 0⟩] := rfl
  obtain ⟨w, hencode, hback, -⟩ := encode_of_decode ht hdecode
    (by simp [d, Datum.leaves, Datum.itemLeaves]) "b" "c"
  obtain ⟨w', hencode', -, hrefused⟩ := encode_of_decode ht hdecodeLate
    (by simp [late, Datum.leaves, Datum.itemLeaves]) "b" "c"
  obtain ⟨e, he, i, hi, -, hmisfit⟩ := hrefused hyearsLate
  have hdate : i = ⟨253402302600, 0⟩ := by
    simpa [late, Datum.leaves, Datum.itemLeaves] using hi
  have hwire : w' = .array [.dateTime "+100000101T00:30:00Z"] := by
    have htexts : late.encode "b" = .ok (.array [.dateTime (Instant.text ⟨253402302600, 0⟩)]) := rfl
    rw [htext, hencode'] at htexts
    exact Except.ok.inj htexts
  rw [hdate, htext] at hmisfit
  rw [hseconds] at hback
  exact ⟨hdecode, ⟨w, hencode, hback hyears⟩, hdecodeLate, w', e, hencode', hwire, he, hmisfit⟩

end PoolClient.Schema
