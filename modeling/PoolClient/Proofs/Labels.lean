import PoolClient.Proofs.Decoding
/-!
# Labels only label

Which label a value is read or written under makes no difference to what comes of it: two runs
under different labels give the same value, or fail in the same way, each under a label that
begins with its own (`Alike`). This holds of every type and every datum
(`reads_and_writes_alike`). The labels of errors tell where the reading stopped: at the first item
of a sequence or set, and at the first member of a mapping, that cannot be read.
-/

namespace PoolClient.Schema

open Number

/-! ## Two runs under two labels -/

/-- Two runs under the labels `l` and `l'` give the same value, or they fail in the same way, each
under a label that begins with its own. -/
inductive Alike {α : Type} (l l' : String) : Except CodecError α → Except CodecError α → Prop
  | value (a : α) : Alike l l' (.ok a) (.ok a)
  | misfit {m m' : String} (h : Extends l m) (h' : Extends l' m') (misfit : Misfit) :
    Alike l l' (.error ⟨m, misfit⟩) (.error ⟨m', misfit⟩)

namespace Alike

variable {α β : Type} {l l' m m' : String} {r r' : Except CodecError α}

/-- Runs that fail under the labels themselves. -/
theorem refused (misfit : Misfit) :
    Alike (α := α) l l' (.error ⟨l, misfit⟩) (.error ⟨l', misfit⟩) :=
  .misfit (.refl l) (.refl l') misfit

/-- Runs that are alike under the labels of a part are alike under those of the whole. -/
theorem of_extends (h : Alike m m' r r') (hl : Extends l m) (hl' : Extends l' m') :
    Alike l l' r r' := by
  cases h with
  | value a => exact .value a
  | misfit h h' misfit => exact .misfit (hl.trans h) (hl'.trans h') misfit

theorem bind {g g' : α → Except CodecError β} (h : Alike l l' r r')
    (hg : ∀ a, Alike l l' (g a) (g' a)) : Alike l l' (r >>= g) (r' >>= g') := by
  cases h with
  | value a => exact hg a
  | misfit h h' misfit => exact .misfit h h' misfit

theorem map (h : Alike l l' r r') (g : α → β) : Alike l l' (r.map g) (r'.map g) := by
  cases h with
  | value a => exact .value (g a)
  | misfit h h' misfit => exact .misfit h h' misfit

theorem mapM {step step' : α → Except CodecError β} (h : ∀ a, Alike l l' (step a) (step' a))
    (as : List α) : Alike l l' (as.mapM step) (as.mapM step') := by
  induction as with
  | nil => exact .value []
  | cons a rest ih =>
    rw [mapM_cons_eq, mapM_cons_eq]
    exact (h a).bind fun b => ih.map (b :: ·)

/-- A run that gives a value gives it under every label. -/
theorem eq_ok {a : α} (h : Alike l l' r r') (hr : r = .ok a) : r' = .ok a := by
  cases h with
  | value b => exact hr
  | misfit => cases hr

end Alike

/-! ## Labels of items and entries -/

theorem childLabel_bracket (label rest : String) :
    childLabel label ("[" ++ rest) = label ++ ("[" ++ rest) := by
  simp [childLabel, String.toList_append]

theorem itemLabel_eq (label : String) (i : Nat) :
    itemLabel label i = label ++ ("[" ++ naturalText i ++ "]") := by
  rw [itemLabel, String.append_assoc, childLabel_bracket]

theorem entryLabel_eq (label name : String) :
    entryLabel label name = label ++ ("[" ++ name ++ "]") := by
  rw [entryLabel, String.append_assoc, childLabel_bracket]

/-! ## Reading -/

section

variable {l l' : String}

theorem alike_mismatch (expected : Expectation) (v : Value) {α : Type} :
    Alike (α := α) l l' (.error (.mismatch l expected v)) (.error (.mismatch l' expected v)) :=
  .refused _

theorem alike_integerOfText (text : String) :
    Alike l l' (integerOfText l text) (integerOfText l' text) := by
  simp only [integerOfText]
  split
  · exact .value _
  · split <;> exact .refused _

theorem alike_instantOfText (text : String) :
    Alike l l' (instantOfText l text) (instantOfText l' text) := by
  unfold instantOfText
  cases Time.Instant.read? text with
  | some t => exact .value _
  | none => exact .refused _

theorem alike_decode_key (key : KeyType) (name : String) :
    Alike l l' (key.decode l name) (key.decode l' name) := by
  cases key with
  | integer => exact (alike_integerOfText name).map Datum.integer
  | text | reference | label => exact .value _

theorem alike_arrayItems (v : Value) : Alike l l' (arrayItems l v) (arrayItems l' v) := by
  cases v with
  | array vs => exact .value vs
  | _ => exact alike_mismatch _ _

theorem alike_structMembers (v : Value) :
    Alike l l' (structMembers l v) (structMembers l' v) := by
  cases v with
  | struct members => exact .value members
  | _ => exact alike_mismatch _ _

variable {f : String → Value → Except CodecError Datum}

theorem alike_decodeItems (hf : ∀ v l l', Alike l l' (f l v) (f l' v)) (i : Nat)
    (vs : List Value) : Alike l l' (decodeItems f l i vs) (decodeItems f l' i vs) := by
  rw [decodeItems_eq_mapM, decodeItems_eq_mapM]
  refine .mapM (fun p => ?_) _
  exact (hf p.1 _ _).of_extends (extends_itemLabel l p.2) (extends_itemLabel l' p.2)

theorem alike_readEntry (key : KeyType) (hf : ∀ v l l', Alike l l' (f l v) (f l' v))
    (m : String × Value) : Alike l l' (readEntry key f l m) (readEntry key f l' m) :=
  (alike_decode_key key m.1).bind fun k => (hf m.2 l l').map (k, ·)

theorem alike_decodeEntries (key : KeyType) (hf : ∀ v l l', Alike l l' (f l v) (f l' v))
    (members : List (String × Value)) :
    Alike l l' (decodeEntries key f l members) (decodeEntries key f l' members) := by
  rw [decodeEntries_eq_mapM, decodeEntries_eq_mapM]
  refine .mapM (fun m => ?_) _
  exact (alike_readEntry key hf m).of_extends (extends_entryLabel l m.1)
    (extends_entryLabel l' m.1)

end

mutual

/-- Reading as a type is alike under all labels. -/
theorem alike_decode : ∀ (t : WireType) (v : Value) (l l' : String),
    Alike l l' (t.decode l v) (t.decode l' v)
  | .text, v, _, _ => by
    cases v with
    | string s => exact .value _
    | _ => exact alike_mismatch _ _
  | .integer, v, _, _ => by
    cases v with
    | int n => exact .value _
    | string s => exact (alike_integerOfText s).map Datum.integer
    | _ => exact alike_mismatch _ _
  | .real, v, _, _ => by
    cases v with
    | double x => exact .value _
    | int n => exact .value _
    | string s =>
      simp only [WireType.decode]
      split
      · exact .value _
      · exact .refused _
    | _ => exact alike_mismatch _ _
  | .flag, v, _, _ => by
    cases v with
    | boolean b => exact .value _
    | _ => exact alike_mismatch _ _
  | .instant, v, _, _ => by
    cases v with
    | dateTime s => exact alike_instantOfText s
    | string s => exact alike_instantOfText s
    | _ => exact alike_mismatch _ _
  | .nothing, v, _, _ => by
    simp only [WireType.decode]
    split
    · exact .value _
    · split
      · exact .value _
      · exact .refused _
  | .wire, v, _, _ => .value _
  | .reference _, v, _, _ => by
    cases v with
    | string s => exact .value _
    | _ => exact alike_mismatch _ _
  | .label _, v, _, _ => by
    cases v with
    | string s => exact .value _
    | _ => exact alike_mismatch _ _
  | .list item, v, _, _ =>
    (alike_arrayItems v).bind fun vs =>
      (alike_decodeItems (alike_decode item) 0 vs).bind fun _ => .value _
  | .set item, v, _, _ =>
    (alike_arrayItems v).bind fun vs =>
      (alike_decodeItems (alike_decode item) 0 vs).bind fun _ => .value _
  | .map key value, v, _, _ =>
    (alike_structMembers v).bind fun members =>
      (alike_decodeEntries key (alike_decode value) members).bind fun _ => .value _
  | .record title fields, v, l, l' =>
    (alike_structMembers v).bind fun members =>
      (alike_decodeFields title fields members l l').bind fun _ => .value _

/-- Reading the fields of a record is alike under all labels. -/
theorem alike_decodeFields : ∀ (title : String) (fields : List (String × WireType))
    (members : List (String × Value)) (l l' : String),
    Alike l l' (decodeFields title fields l members) (decodeFields title fields l' members)
  | _, [], _, _, _ => .value _
  | title, (name, t) :: rest, members, l, l' => by
    rw [decodeFields_cons, decodeFields_cons]
    refine .bind ?_ fun d => (alike_decodeFields title rest members l l').map _
    rw [readField, readField]
    cases Value.member? members name with
    | none => exact .value _
    | some v =>
      exact (alike_decode t v _ _).of_extends (extends_fieldLabel l title name)
        (extends_fieldLabel l' title name)

end

/-! ## Where reading stops -/

section

variable {item : WireType} {label : String} {e : CodecError}

/-- The item at some index is the first that cannot be read, and `e` is the error. -/
def StopsAtItem (item : WireType) (label : String) (vs : List Value) (e : CodecError) : Prop :=
  ∃ i v, vs[i]? = some v ∧ item.decode (label ++ ("[" ++ naturalText i ++ "]")) v = .error e ∧
    ∀ j w, j < i → vs[j]? = some w →
      ∃ d, item.decode (label ++ ("[" ++ naturalText j ++ "]")) w = .ok d

/-- Some member is the first by name that cannot be read, and `e` is the error. -/
def StopsAtMember (key : KeyType) (value : WireType) (label : String)
    (members : List (String × Value)) (e : CodecError) : Prop :=
  ∃ m ∈ members, readEntry key value.decode (label ++ ("[" ++ m.1 ++ "]")) m = .error e ∧
    ∀ n ∈ members, n.1 < m.1 →
      ∃ d, readEntry key value.decode (label ++ ("[" ++ n.1 ++ "]")) n = .ok d

theorem decodeItems_eq_error_iff {vs : List Value} :
    decodeItems item.decode label 0 vs = .error e ↔ StopsAtItem item label vs e := by
  simp only [decodeItems_eq_mapM, mapM_eq_error_iff, StopsAtItem, ← itemLabel_eq]
  constructor
  · rintro ⟨before, ⟨v, i⟩, after, hsplit, hbefore, hv⟩
    obtain ⟨vs₁, vs₂, rfl, rfl, htail⟩ := List.zipIdx_eq_append_iff.1 hsplit
    obtain ⟨_, rest, rfl, hhead, -⟩ := List.zipIdx_eq_cons_iff.1 htail.symm
    obtain ⟨rfl, rfl⟩ := Prod.mk.inj hhead
    rw [Nat.zero_add] at hv
    refine ⟨vs₁.length, v, by simp, hv, fun j w hj hw => ?_⟩
    rw [List.getElem?_append_left hj] at hw
    exact hbefore (w, j) (List.mk_mem_zipIdx_iff_getElem?.2 hw)
  · rintro ⟨i, v, hi, hv, hbefore⟩
    obtain ⟨hlt, rfl⟩ := List.getElem?_eq_some_iff.1 hi
    have hlength : (vs.take i).length = i := List.length_take_of_le (Nat.le_of_lt hlt)
    refine ⟨(vs.take i).zipIdx, (vs[i], i), (vs.drop (i + 1)).zipIdx (i + 1), ?_, ?_, hv⟩
    · conv_lhs => rw [← List.take_append_drop i vs, ← List.getElem_cons_drop hlt]
      rw [List.zipIdx_append, List.zipIdx_cons, hlength, Nat.zero_add]
    · rintro ⟨w, j⟩ hw
      have hw := List.mk_mem_zipIdx_iff_getElem?.1 hw
      have hj : j < i := hlength ▸ (List.getElem?_eq_some_iff.1 hw).1
      rw [List.getElem?_take_of_lt hj] at hw
      exact hbefore j w hj hw

theorem decodeEntries_eq_error_iff {key : KeyType} {value : WireType}
    {members : List (String × Value)} (hsorted : members.Pairwise (·.1 < ·.1)) :
    decodeEntries key value.decode label members = .error e ↔
      StopsAtMember key value label members e := by
  simp only [decodeEntries_eq_mapM, mapM_eq_error_iff, StopsAtMember, entryLabel_eq]
  constructor
  · rintro ⟨before, m, after, rfl, hbefore, hm⟩
    refine ⟨m, List.mem_append_right _ List.mem_cons_self, hm, fun n hn hlt => hbefore n ?_⟩
    -- a member with a smaller name does not stand behind `m`
    obtain hn | hn := List.mem_append.1 hn
    · exact hn
    · obtain rfl | hn := List.mem_cons.1 hn
      · exact absurd hlt (String.lt_irrefl _)
      · have hafter := List.rel_of_pairwise_cons (List.pairwise_append.1 hsorted).2.1 hn
        exact absurd (String.lt_trans hlt hafter) (String.lt_irrefl _)
  · rintro ⟨m, hm, herror, hbefore⟩
    obtain ⟨before, after, rfl⟩ := List.append_of_mem hm
    refine ⟨before, m, after, rfl, fun n hn => ?_, herror⟩
    have hlt : n.1 < m.1 := (List.pairwise_append.1 hsorted).2.2 n hn m List.mem_cons_self
    exact hbefore n (List.mem_append_left _ hn) hlt

theorem arrayItems_bind_eq_error_iff {v : Value} {g : List Value → Except CodecError Datum} :
    arrayItems label v >>= g = .error e ↔
      (∃ vs, v = .array vs ∧ g vs = .error e) ∨
        (∀ vs, v ≠ .array vs) ∧ e = .mismatch label .array v := by
  cases v with
  | array vs => simp [arrayItems, bind, Except.bind]
  | _ => simp [arrayItems, bind, Except.bind, eq_comm]

theorem structMembers_bind_eq_error_iff {v : Value}
    {g : List (String × Value) → Except CodecError Datum} :
    structMembers label v >>= g = .error e ↔
      (∃ members, v = .struct members ∧ g members = .error e) ∨
        (∀ members, v ≠ .struct members) ∧ e = .mismatch label .struct v := by
  cases v with
  | struct members => simp [structMembers, bind, Except.bind]
  | _ => simp [structMembers, bind, Except.bind, eq_comm]

end

/-! ## All types and all data -/

/-- Reading as a type does not depend on the label, and errors are labelled by the part that
cannot be read. -/
structure ReadsAlike (t : WireType) : Prop where
  /-- Two labels give the same value, or misfits of the same kind under labels that extend them. -/
  alike : ∀ v l l', Alike l l' (t.decode l v) (t.decode l' v)
  /-- A sequence or set fails as its first item that cannot be read, or because it is no array. -/
  items : ∀ item, t = .list item ∨ t = .set item → ∀ label v e, t.decode label v = .error e ↔
    (∃ vs, v = .array vs ∧ StopsAtItem item label vs e) ∨
      (∀ vs, v ≠ .array vs) ∧ e = .mismatch label .array v
  /-- A mapping fails as its first member by name that cannot be read, or because it is no
  structure. -/
  members : ∀ key value, t = .map key value → ∀ label v e, v.Canonical →
    (t.decode label v = .error e ↔
      (∃ members, v = .struct members ∧ StopsAtMember key value label members e) ∨
        (∀ members, v ≠ .struct members) ∧ e = .mismatch label .struct v)

/-- Writing a datum does not depend on the label, and fails only for a double that is not finite. -/
structure Datum.WritesAlike (d : Datum) : Prop where
  alike : ∀ l l', Alike l l' (d.encode l) (d.encode l')
  /-- It fails just when some double in the datum is not finite. -/
  fails : ∀ l, (∃ e, d.encode l = .error e) ↔ ∃ x, .real x ∈ d.leaves ∧ x.isFinite = false
  /-- The error is about the first such double. -/
  first : ∀ l e, d.encode l = .error e → ∃ before x after, d.leaves = before ++ .real x :: after ∧
    (∀ y, .real y ∈ before → y.isFinite = true) ∧ x.isFinite = false ∧
      e.misfit = .nonFiniteFloat x

theorem readsAlike (t : WireType) : ReadsAlike t where
  alike := alike_decode t
  items item ht label v e := by
    obtain rfl | rfl := ht
    · rw [WireType.decode_list, arrayItems_bind_eq_error_iff]
      simp only [bind_pure_eq_error_iff, decodeItems_eq_error_iff]
    · rw [WireType.decode_set, arrayItems_bind_eq_error_iff]
      simp only [bind_pure_eq_error_iff, decodeItems_eq_error_iff]
  members key value ht label v e hv := by
    subst ht
    rw [WireType.decode_map, structMembers_bind_eq_error_iff]
    simp only [bind_pure_eq_error_iff]
    refine or_congr_left (exists_congr fun members => and_congr_right ?_)
    rintro rfl
    exact decodeEntries_eq_error_iff hv.1

namespace Datum

theorem writesAlike (d : Datum) : d.WritesAlike where
  alike l l' := by
    cases h : unwritable? d.leaves with
    | none =>
      rw [writes_of_finite d h, writes_of_finite d h]
      exact .value _
    | some x =>
      obtain ⟨m, hm, herror⟩ := encode_of_unwritable h l
      obtain ⟨m', hm', herror'⟩ := encode_of_unwritable h l'
      rw [herror, herror']
      exact .misfit hm hm' _
  fails l := by
    have hfinite : (∃ x, .real x ∈ d.leaves ∧ x.isFinite = false) ↔
        unwritable? d.leaves ≠ none := by
      simp [ne_eq, unwritable?_eq_none_iff]
    rw [hfinite]
    cases h : unwritable? d.leaves with
    | none => simp [writes_of_finite d h l]
    | some x =>
      obtain ⟨m, -, herror⟩ := encode_of_unwritable h l
      simp [herror]
  first l e he := by
    cases h : unwritable? d.leaves with
    | none =>
      rw [writes_of_finite d h] at he
      cases he
    | some x =>
      obtain ⟨before, after, hleaves, hbefore, hx⟩ := exists_of_unwritable?_eq_some h
      obtain ⟨m, -, herror⟩ := encode_of_unwritable h l
      refine ⟨before, x, after, hleaves, hbefore, hx, ?_⟩
      rw [← Except.error.inj (herror.symm.trans he)]

end Datum

/-- Labels only label: whatever is read or written, and as whatever type. -/
theorem reads_and_writes_alike (t : WireType) (d : Datum) : ReadsAlike t ∧ d.WritesAlike :=
  ⟨readsAlike t, d.writesAlike⟩

/-- Of two members that cannot be read, the error is that of the first by name, and says which of
its items is at fault. -/
theorem reads_and_writes_alike_members :
    let v : Value := .struct
      [("1", .array []), ("2", .array [.boolean true, .nil]), ("x", .array [])]
    v.Canonical ∧
      (WireType.map .integer (.list .flag)).decode "in" v =
        .error ⟨"in[2][1]", .typeMismatch .boolean .nil⟩ ∧
      ¬∃ e, (Datum.list [.flag true]).encode "in" = .error e := by
  intro v
  have hv : v.Canonical := ⟨by decide, by simp [Value.CanonicalMembers, Value.Canonical,
    Value.CanonicalItems]⟩
  obtain ⟨hreads, hwrites⟩ :=
    reads_and_writes_alike (.map .integer (.list .flag)) (.list [.flag true])
  refine ⟨hv, (hreads.members _ _ rfl "in" v _ hv).2 (.inl ⟨_, rfl, ?_⟩), ?_⟩
  · have hlabel : itemLabel "in[2]" 1 = "in[2][1]" := by decide +kernel
    have hentry : readEntry .integer (WireType.list .flag).decode "in[2]"
        ("2", .array [.boolean true, .nil]) =
          .error ⟨itemLabel "in[2]" 1, .typeMismatch .boolean .nil⟩ := rfl
    rw [hlabel] at hentry
    refine ⟨_, List.mem_of_getElem? (i := 1) rfl, hentry, fun n hn hlt => ?_⟩
    have hfirst : n = ("1", .array []) := by
      simp only [List.mem_cons, List.not_mem_nil, or_false] at hn
      obtain rfl | rfl | rfl := hn
      · rfl
      · exact absurd hlt (by decide)
      · exact absurd hlt (by decide)
    subst hfirst
    exact ⟨_, rfl⟩
  · rw [hwrites.fails]
    simp [Datum.leaves, Datum.itemLeaves]

end PoolClient.Schema
