import PoolClient.Api.Enumeration
import PoolClient.Proofs.Decoding
/-!
# Data that travel verbatim

Text, truth values, wire values, references and labels are written as what they were read from,
and so are sequences of such data and mappings to them (`encode_of_decode_verbatim`). In a mapping
with text, references or labels for keys no two names stand for the same key
(`keyText_eq_of_compare`), so every member has an entry of its own. The entries are kept in the
order of the keys, in which known labels do not come by name; writing sorts the members back.
-/

namespace PoolClient.Schema

open List

/-! ## Types -/

/-- The types whose data travel verbatim. -/
inductive Verbatim : WireType → Prop where
  | text : Verbatim .text
  | flag : Verbatim .flag
  | wire : Verbatim .wire
  | reference (className : String) : Verbatim (.reference className)
  | label (labels : List String) : Verbatim (.label labels)
  | list {item : WireType} (h : Verbatim item) : Verbatim (.list item)
  | map {key : KeyType} {value : WireType} (hkey : key ≠ .integer) (hvalue : Verbatim value) :
      Verbatim (.map key value)

/-- What is read from the value under some label is written as the value under every label. -/
def WritesBack (t : WireType) (v : Value) : Prop :=
  ∀ {label d}, t.decode label v = .ok d → ∀ label', d.encode label' = .ok v

/-! ## Sequences -/

section Items

variable {item : WireType} {vs : List Value} {items : List Datum} {label : String} {i : Nat}

/-- Items are written as the values that they were read from. -/
theorem map_toWire_decodeItems (h : ∀ v ∈ vs, WritesBack item v)
    (hitems : decodeItems item.decode label i vs = .ok items) :
    (∀ d ∈ items, d.Writes) ∧ items.map Datum.toWire = vs := by
  induction vs generalizing i items with
  | nil =>
    cases hitems
    exact ⟨forall_mem_nil _, rfl⟩
  | cons v rest ih =>
    obtain ⟨hv, hrest⟩ := forall_mem_cons.1 h
    rw [decodeItems] at hitems
    split at hitems
    · cases hitems
    · rename_i d hd
      obtain ⟨ds, hds, rfl⟩ := map_eq_ok hitems
      obtain ⟨hwrites, hmap⟩ := ih hrest hds
      refine ⟨forall_mem_cons.2 ⟨.intro (hv hd), hwrites⟩, ?_⟩
      rw [map_cons, Datum.toWire_eq (hv hd), hmap]

end Items

/-! ## Keys -/

/-- Labels that fall together have one text. -/
theorem Label.text_eq_of_compare {labels : List String} {a b : Label} (ha : a.Among labels)
    (hb : b.Among labels) (h : a.compare b = .eq) : a.text = b.text := by
  unfold Label.compare at h
  obtain ⟨i, hi, ha⟩ | ⟨hi, -⟩ := ha <;> obtain ⟨j, hj, hb⟩ | ⟨hj, -⟩ := hb <;>
    simp only [hi, hj] at h
  · obtain rfl : i = j := Std.compare_eq_iff_eq.1 h
    exact Option.some.inj (ha.symm.trans hb)
  · cases h
  · cases h
  · exact Std.compare_eq_iff_eq.1 h

/-- Keys that fall together have one name. -/
theorem keyText_eq_of_compare {key : KeyType} {a b : Datum} (ha : HasType key.toWireType a)
    (hb : HasType key.toWireType b) (h : a.compare b = .eq) : a.keyText = b.keyText := by
  cases key with
  | text =>
    cases ha
    cases hb
    simpa [Datum.compare, Datum.keyText] using h
  | integer =>
    cases ha
    cases hb
    simp only [Datum.compare, Std.compare_eq_iff_eq] at h
    simp only [Datum.keyText, Number.int64Text, h]
  | reference className =>
    cases ha
    cases hb
    simpa [Datum.compare, Datum.keyText] using h
  | label labels =>
    cases ha with
    | label ha =>
      cases hb with
      | label hb => exact Label.text_eq_of_compare ha hb h

/-- A key that is no number has the name that it was read from. -/
theorem keyText_of_decode {key : KeyType} {label name : String} {k : Datum} (hkey : key ≠ .integer)
    (h : key.decode label name = .ok k) : k.keyText = name := by
  cases key with
  | integer => exact absurd rfl hkey
  | text | reference | label =>
    cases h
    rfl

/-! ## Mappings -/

section Entries

variable {key : KeyType} {value : WireType} {members : List (String × Value)}
  {entries : List (Datum × Datum)} {label : String}

/-- Entries are written as the members that they were read from. -/
theorem map_memberOf_decodeEntries (hkey : key ≠ .integer)
    (h : ∀ m ∈ members, WritesBack value m.2)
    (hentries : decodeEntries key value.decode label members = .ok entries) :
    (∀ e ∈ entries, e.2.Writes) ∧ entries.map Datum.memberOf = members := by
  induction members generalizing entries with
  | nil =>
    cases hentries
    exact ⟨forall_mem_nil _, rfl⟩
  | cons m rest ih =>
    obtain ⟨hm, hrest⟩ := forall_mem_cons.1 h
    rw [decodeEntries] at hentries
    split at hentries
    · cases hentries
    · rename_i k hk
      split at hentries
      · cases hentries
      · rename_i d hd
        obtain ⟨es, hes, rfl⟩ := map_eq_ok hentries
        obtain ⟨hwrites, hmap⟩ := ih hrest hes
        refine ⟨forall_mem_cons.2 ⟨.intro (hm hd), hwrites⟩, ?_⟩
        rw [map_cons, hmap, Datum.memberOf, keyText_of_decode hkey hk, Datum.toWire_eq (hm hd)]

/-- Members with different names give entries with different keys. -/
theorem pairwise_keys_decodeEntries (hnames : (members.map (·.1)).Nodup)
    (hmap : entries.map Datum.memberOf = members)
    (hentries : decodeEntries key value.decode label members = .ok entries) :
    entries.Pairwise fun a b => a.1.compare b.1 ≠ .eq := by
  have htype : ∀ e ∈ entries, HasType key.toWireType e.1 := by
    intro e he
    obtain ⟨⟨name, l, hdecode⟩, -⟩ := decodeEntries_ok hentries e he
    exact WireType.hasType_of_decode_key hdecode
  rw [← hmap, map_map, nodup_iff_pairwise_ne, pairwise_map] at hnames
  refine hnames.imp_of_mem fun ha hb hne heq => hne ?_
  exact keyText_eq_of_compare (htype _ ha) (htype _ hb) heq

theorem writesBack_map (hkey : key ≠ .integer) (hsorted : members.Pairwise (·.1 < ·.1))
    (h : ∀ m ∈ members, WritesBack value m.2) : WritesBack (.map key value) (.struct members) := by
  intro label d hd label'
  rw [WireType.decode_map] at hd
  obtain ⟨ms, hms, hd⟩ := bind_eq_ok hd
  cases hms
  obtain ⟨entries, hentries, hd⟩ := bind_eq_ok hd
  cases hd
  obtain ⟨hwrites, hmap⟩ := map_memberOf_decodeEntries hkey h hentries
  have hperm := Datum.sortedMap_perm
    (pairwise_keys_decodeEntries (Value.nodup_names hsorted) hmap hentries)
  have hmembers : (Datum.sortedMap entries).map Datum.memberOf ~ members :=
    hmap ▸ hperm.map Datum.memberOf
  rw [Datum.encode_map fun e he => hwrites e (hperm.mem_iff.1 he), Value.ofMembers,
    Value.sortMembers_eq_of_perm hsorted hmembers]

end Entries

/-! ## All types -/

theorem Verbatim.writesBack {t : WireType} (ht : Verbatim t) :
    ∀ {v : Value}, v.Canonical → WritesBack t v := by
  induction ht with
  | text | flag | reference | label =>
    intro v _ label d hd label'
    cases v <;> cases hd
    rfl
  | wire =>
    intro v _ label d hd label'
    cases hd
    rfl
  | list _ ih =>
    intro v hv label d hd label'
    rw [WireType.decode_list] at hd
    obtain ⟨vs, hvs, hd⟩ := bind_eq_ok hd
    obtain ⟨items, hitems, hd⟩ := bind_eq_ok hd
    cases hd
    cases v with
    | array =>
      cases hvs
      obtain ⟨hwrites, hmap⟩ := map_toWire_decodeItems
        (fun v hmem => ih (Value.canonicalItems_iff.1 hv v hmem)) hitems
      rw [Datum.encode_list hwrites, hmap]
    | _ => cases hvs
  | map hkey _ ih =>
    intro v hv
    cases v with
    | struct members =>
      exact writesBack_map hkey hv.1 fun m hm => ih (Value.canonicalMembers_iff.1 hv.2 m hm)
    | _ =>
      intro label d hd
      cases hd

/-- Data that travel verbatim are written as the very value that they were read from, whatever the
labels. -/
theorem encode_of_decode_verbatim {t : WireType} (ht : Verbatim t) {v : Value} (hv : v.Canonical)
    {label : String} {d : Datum} (h : t.decode label v = .ok d) (label' : String) :
    d.encode label' = .ok v :=
  ht.writesBack hv h label'

/-- The known labels are kept in the order of their declaration, and the unknown one after them. -/
theorem encode_of_decode_verbatim_map :
    let t : WireType := .map (.label Api.Enumeration.taskStatusType)
      (.list (.map (.reference "VM") .wire))
    let v : Value := .struct [("cancelled", .array [.struct [("OpaqueRef:1", .int 7)]]),
      ("paused", .array []), ("pending", .array [.struct [("", .nil)]])]
    let d : Datum := .map [
      (.label ⟨some 0, "pending"⟩, .list [.map [(.reference "", .wire .nil)]]),
      (.label ⟨some 4, "cancelled"⟩, .list [.map [(.reference "OpaqueRef:1", .wire (.int 7))]]),
      (.label ⟨none, "paused"⟩, .list [])]
    t.decode "Task.get_all -> " v = .ok d ∧ d.encode "Task.set_all" = .ok v := by
  intro t v d
  have ht : Verbatim t := .map nofun (.list (.map nofun .wire))
  have hv : v.Canonical := by
    refine ⟨?_, ?_⟩
    · simp only [pairwise_cons, forall_mem_cons]
      decide
    · simp [Value.CanonicalMembers, Value.Canonical, Value.CanonicalItems]
  have hd : t.decode "Task.get_all -> " v = .ok d := rfl
  exact ⟨hd, encode_of_decode_verbatim ht hv hd _⟩

end PoolClient.Schema
