import PoolClient.Proofs.Labels
import PoolClient.Proofs.Verbatim
/-!
# Sets are canonical

Text, integers, references, labels and sequences of these have an order of their own (`Precedes`),
and comparing what was read as one of these types decides it (`IsRead.compare_eq_lt_iff`,
`IsRead.eq_of_compare`). So a set of them is determined by its members: arrays are read as the same
set just when their elements stand for the same data, in whatever order and however often, and a
set is written in strictly ascending order with each member once (`read_set_canonical`).
-/

namespace PoolClient.Schema

open List

/-! ## Types with an order -/

/-- The types whose data have an order: text, integers, references, labels, and sequences of
these. -/
inductive Sortable : WireType → Prop where
  | text : Sortable .text
  | integer : Sortable .integer
  | reference (className : String) : Sortable (.reference className)
  | label (labels : List String) : Sortable (.label labels)
  | list {item : WireType} (h : Sortable item) : Sortable (.list item)

/-- The order of an enumeration: known labels as they are declared, then unknown ones by code
point. -/
def Label.Precedes (labels : List String) (a b : Label) : Prop :=
  (b.text ∈ labels ∧ labels.idxOf a.text < labels.idxOf b.text) ∨
    (a.text ∈ labels ∧ b.text ∉ labels) ∨
      (a.text ∉ labels ∧ b.text ∉ labels ∧ a.text < b.text)

/-- The order of the data of a type: text and references by code point, integers by value, labels
by declaration, sequences lexicographically. -/
def Precedes : WireType → Datum → Datum → Prop
  | .text, .text s, .text s' => s < s'
  | .integer, .integer n, .integer n' => n.toInt < n'.toInt
  | .reference _, .reference id, .reference id' => id < id'
  | .label labels, .label a, .label b => a.Precedes labels b
  | .list item, .list as, .list bs => List.Lex (Precedes item) as bs
  | _, _, _ => False

/-- What values are read as, for the types with an order. -/
inductive IsRead : WireType → Datum → Prop where
  | text (s : String) : IsRead .text (.text s)
  | integer (n : Int64) : IsRead .integer (.integer n)
  | reference (className id : String) : IsRead (.reference className) (.reference id)
  | label (labels : List String) (s : String) : IsRead (.label labels) (.label (.ofText labels s))
  | list {item : WireType} {items : List Datum} (h : ∀ d ∈ items, IsRead item d) :
      IsRead (.list item) (.list items)

theorem Sortable.isRead {t : WireType} (ht : Sortable t) :
    ∀ {label : String} {v : Value} {d : Datum}, t.decode label v = .ok d → IsRead t d := by
  induction ht with
  | text =>
    intro label v d h
    obtain ⟨s, -, rfl⟩ := WireType.exists_of_decode_text h
    exact .text s
  | integer =>
    intro label v d h
    obtain ⟨n, rfl⟩ := WireType.exists_of_decode_integer h
    exact .integer n
  | reference className =>
    intro label v d h
    obtain ⟨id, -, rfl⟩ := WireType.exists_of_decode_reference h
    exact .reference className id
  | label labels =>
    intro label v d h
    obtain ⟨s, -, rfl⟩ := WireType.exists_of_decode_label h
    exact .label labels s
  | list _ ih =>
    intro label v d h
    obtain ⟨vs, -, h⟩ := bind_eq_ok h
    obtain ⟨items, hitems, h⟩ := bind_eq_ok h
    cases h
    refine .list fun d hd => ?_
    obtain ⟨v, l, hv⟩ := decodeItems_ok hitems d hd
    exact ih hv

/-! ## The order decides -/

theorem Label.place_ofText (labels : List String) (s : String) :
    (ofText labels s).place = if s ∈ labels then some (labels.idxOf s) else none := by
  rw [ofText, findIdx?_eq_guard_findIdx_lt, Option.guard]
  simp only [decide_eq_true_eq]
  exact if_congr idxOf_lt_length_iff rfl rfl

theorem Label.compare_ofText_eq_lt_iff (labels : List String) (s s' : String) :
    (ofText labels s).compare (ofText labels s') = .lt ↔
      (ofText labels s).Precedes labels (ofText labels s') := by
  have htext : ∀ s, (ofText labels s).text = s := fun _ => rfl
  simp only [Label.compare, Precedes, place_ofText, htext]
  by_cases hs : s ∈ labels <;> by_cases hs' : s' ∈ labels
  · simp [hs, hs', Std.compare_eq_lt]
  · simp [hs, hs']
  · -- an unknown label has its index behind those of all known ones
    have hle : labels.idxOf s' ≤ labels.length := idxOf_le_length
    simp [hs, hs', hle]
  · have hunknown : Ord.compare s s' = .lt ↔ s < s' := compareOfLessAndEq_eq_lt
    simp [hs, hs', hunknown]

namespace Datum

variable {r : Datum → Datum → Prop} {as bs : List Datum}

/-- Items in order are in lexicographic order as sequences. -/
theorem compareItems_eq_lt_iff (hlt : ∀ a ∈ as, ∀ b ∈ bs, a.compare b = .lt ↔ r a b)
    (heq : ∀ a ∈ as, ∀ b ∈ bs, a.compare b = .eq → a = b) :
    compareItems as bs = .lt ↔ List.Lex r as bs := by
  induction as generalizing bs with
  | nil =>
    cases bs with
    | nil => simp [compareItems]
    | cons b bs => simp [compareItems]
  | cons a as ih =>
    cases bs with
    | nil => simp [compareItems]
    | cons b bs =>
      have hrest : compareItems as bs = .lt ↔ List.Lex r as bs :=
        ih (fun a ha b hb => hlt a (mem_cons_of_mem _ ha) b (mem_cons_of_mem _ hb))
          fun a ha b hb => heq a (mem_cons_of_mem _ ha) b (mem_cons_of_mem _ hb)
      have hhead : a.compare b = .eq ↔ a = b := by
        refine ⟨heq a mem_cons_self b mem_cons_self, ?_⟩
        rintro rfl
        exact compare_self a
      rw [compareItems, Ordering.then_eq_lt, hlt a mem_cons_self b mem_cons_self, hhead, hrest,
        cons_lex_cons_iff]

theorem eq_of_compareItems (heq : ∀ a ∈ as, ∀ b ∈ bs, a.compare b = .eq → a = b)
    (h : compareItems as bs = .eq) : as = bs := by
  induction as generalizing bs with
  | nil =>
    cases bs with
    | nil => rfl
    | cons b bs => cases h
  | cons a as ih =>
    cases bs with
    | nil => cases h
    | cons b bs =>
      obtain ⟨hhead, hrest⟩ := Ordering.then_eq_eq.1 h
      rw [heq a mem_cons_self b mem_cons_self hhead,
        ih (fun a ha b hb => heq a (mem_cons_of_mem _ ha) b (mem_cons_of_mem _ hb)) hrest]

end Datum

namespace IsRead

variable {t : WireType} {a b d : Datum}

theorem hasType (h : IsRead t d) : HasType t d := by
  induction h with
  | text s => exact .text s
  | integer n => exact .integer n
  | reference className id => exact .reference className id
  | label labels s => exact .label (Label.among_ofText labels s)
  | list _ ih => exact .list ih

theorem readsAs (h : IsRead t d) : ReadsAs t d d := by
  induction h with
  | text s => exact .intro (fun _ => rfl) fun _ => rfl
  | integer n => exact readsAs_integer n
  | reference className id => exact .intro (fun _ => rfl) fun _ => rfl
  | label labels s => exact .intro (fun _ => rfl) fun _ => rfl
  | @list item items _ ih =>
    have hitems := readsAs_list (f := id) ih
    rwa [map_id] at hitems

theorem eq_of_compare (ha : IsRead t a) (hb : IsRead t b) (h : a.compare b = .eq) : a = b := by
  induction ha generalizing b with
  | text | reference =>
    cases hb
    rw [Std.compare_eq_iff_eq.1 h]
  | integer =>
    cases hb
    rw [Int64.toInt_inj.1 (Std.compare_eq_iff_eq.1 h)]
  | label labels s =>
    cases hb with
    | label _ s' =>
      have htext : s = s' := Label.text_eq_of_compare (Label.among_ofText labels s)
        (Label.among_ofText labels s') h
      rw [htext]
  | list _ ih =>
    cases hb with
    | list hb =>
      rw [Datum.eq_of_compareItems (fun a ha b hmem => ih a ha (hb b hmem)) h]

theorem compare_eq_lt_iff (ha : IsRead t a) (hb : IsRead t b) :
    a.compare b = .lt ↔ Precedes t a b := by
  induction ha generalizing b with
  | text | reference =>
    cases hb
    exact compareOfLessAndEq_eq_lt
  | integer =>
    cases hb
    exact Std.compare_eq_lt
  | label labels s =>
    cases hb with
    | label _ s' => exact Label.compare_ofText_eq_lt_iff labels s s'
  | list h ih =>
    cases hb with
    | list hb =>
      exact Datum.compareItems_eq_lt_iff (fun a ha b hmem => ih a ha (hb b hmem))
        fun a ha b hmem => (h a ha).eq_of_compare (hb b hmem)

end IsRead

/-! ## Members of sets -/

namespace Datum

variable {t : WireType} {d item : Datum} {items sorted : List Datum}

theorem subset_insertItem (item : Datum) (items : List Datum) : items ⊆ insertItem item items := by
  induction items with
  | nil => exact nil_subset _
  | cons x rest ih =>
    rw [insertItem]
    split
    · exact subset_cons_self ..
    · exact Subset.refl _
    · exact cons_subset_cons x ih

theorem mem_insertItem_self (hitem : IsRead t item) (hitems : ∀ d ∈ items, IsRead t d) :
    item ∈ insertItem item items := by
  induction items with
  | nil => exact mem_singleton_self _
  | cons x rest ih =>
    obtain ⟨hx, hrest⟩ := forall_mem_cons.1 hitems
    rw [insertItem]
    split
    · exact mem_cons_self
    · rename_i heq
      rw [hitem.eq_of_compare hx heq]
      exact mem_cons_self
    · exact mem_cons_of_mem _ (ih hrest)

theorem mem_foldl_insertItem (hitems : ∀ d ∈ items, IsRead t d)
    (hsorted : ∀ d ∈ sorted, IsRead t d) (hd : d ∈ items ∨ d ∈ sorted) :
    d ∈ items.foldl (fun sorted x => insertItem x sorted) sorted := by
  induction items generalizing sorted with
  | nil => exact hd.resolve_left not_mem_nil
  | cons x rest ih =>
    obtain ⟨hx, hrest⟩ := forall_mem_cons.1 hitems
    refine ih hrest (fun d hd => ?_) ?_
    · rcases mem_insertItem hd with rfl | hd
      · exact hx
      · exact hsorted d hd
    · obtain hd | hd := hd
      · obtain rfl | hd := mem_cons.1 hd
        · exact .inr (mem_insertItem_self hx hsorted)
        · exact .inl hd
      · exact .inr (subset_insertItem x sorted hd)

/-- A set of data with an order holds just the items that it is built from. -/
theorem mem_sortedSet_iff (hitems : ∀ d ∈ items, IsRead t d) : d ∈ sortedSet items ↔ d ∈ items :=
  ⟨mem_of_mem_sortedSet (fun d hd => (hitems d hd).hasType) d,
    fun hd => mem_foldl_insertItem hitems (forall_mem_nil _) (.inl hd)⟩

/-- The set is in strictly ascending order. -/
theorem pairwise_precedes_sortedSet (hitems : ∀ d ∈ items, IsRead t d) :
    (sortedSet items).Pairwise (Precedes t) := by
  have hascending := pairwise_sortedSet fun d hd => (hitems d hd).hasType
  refine hascending.imp_of_mem fun ha hb hlt => ?_
  rw [mem_sortedSet_iff hitems] at ha hb
  exact ((hitems _ ha).compare_eq_lt_iff (hitems _ hb)).1 hlt

theorem nodup_of_ascending (h : items.Pairwise fun a b => a.compare b = .lt) : items.Nodup := by
  refine h.imp fun hlt => ?_
  rintro rfl
  rw [compare_self] at hlt
  cases hlt

/-- Ascending lists with the same members are the same. -/
theorem eq_of_ascending (h : items.Pairwise fun a b => a.compare b = .lt)
    (h' : sorted.Pairwise fun a b => a.compare b = .lt) (hmem : ∀ d, d ∈ items ↔ d ∈ sorted) :
    items = sorted := by
  have hperm : items ~ sorted :=
    (perm_ext_iff_of_nodup (nodup_of_ascending h) (nodup_of_ascending h')).2 hmem
  refine hperm.eq_of_pairwise (fun a b _ _ hab hba => ?_) h h'
  rw [compare_eq_gt hab] at hba
  cases hba

theorem sortedSet_eq_iff {items' : List Datum} (hitems : ∀ d ∈ items, IsRead t d)
    (hitems' : ∀ d ∈ items', IsRead t d) :
    sortedSet items = sortedSet items' ↔ ∀ d, d ∈ items ↔ d ∈ items' := by
  refine ⟨fun h d => ?_, fun hmem => ?_⟩
  · rw [← mem_sortedSet_iff hitems, h, mem_sortedSet_iff hitems']
  · refine eq_of_ascending (pairwise_sortedSet fun d hd => (hitems d hd).hasType)
      (pairwise_sortedSet fun d hd => (hitems' d hd).hasType) fun d => ?_
    rw [mem_sortedSet_iff hitems, mem_sortedSet_iff hitems', hmem]

end Datum

/-! ## What values stand for -/

/-- The value is read as the datum, whatever the label. -/
def StandsFor (t : WireType) (v : Value) (d : Datum) : Prop :=
  ∀ label, t.decode label v = .ok d

section

variable {t item : WireType} {v : Value} {d d' : Datum} {as bs : List Value}

/-- What can be read under some label stands for something under all. -/
theorem exists_standsFor (h : ∀ v ∈ as, ∃ label d, item.decode label v = .ok d) :
    ∀ v ∈ as, ∃ d, StandsFor item v d := by
  intro v hv
  obtain ⟨label, d, hd⟩ := h v hv
  exact ⟨d, fun label' => (alike_decode item v label label').eq_ok hd⟩

theorem StandsFor.unique (h : StandsFor t v d) (hother : StandsFor t v d') : d = d' :=
  Except.ok.inj ((h "").symm.trans (hother ""))

/-- If every item of an array can be read, they are read as a list of data. -/
theorem exists_forall₂_standsFor (h : ∀ v ∈ as, ∃ d, StandsFor item v d) :
    ∃ ds, Forall₂ (StandsFor item) as ds := by
  induction as with
  | nil => exact ⟨[], .nil⟩
  | cons v rest ih =>
    obtain ⟨⟨d, hd⟩, hrest⟩ := forall_mem_cons.1 h
    obtain ⟨ds, hds⟩ := ih hrest
    exact ⟨d :: ds, .cons hd hds⟩

theorem mem_iff_of_forall₂ {ds : List Datum} (h : Forall₂ (StandsFor item) as ds) :
    d ∈ ds ↔ ∃ v ∈ as, StandsFor item v d := by
  induction h with
  | nil => simp
  | @cons v d' vs ds hd _ ih =>
    have hhead : d = d' ↔ StandsFor item v d := ⟨fun heq => heq ▸ hd, fun h => h.unique hd⟩
    rw [mem_cons, hhead, ih]
    simp

theorem standsFor_set {ds : List Datum} (h : Forall₂ (StandsFor item) as ds) :
    StandsFor (.set item) (.array as) (.set (Datum.sortedSet ds)) := by
  intro label
  simp only [WireType.decode_set, arrayItems, bind, Except.bind, decodeItems_of_forall₂ h]
  rfl

theorem Sortable.isRead_of_forall₂ {ds : List Datum} (ht : Sortable item)
    (h : Forall₂ (StandsFor item) as ds) : ∀ d ∈ ds, IsRead item d := by
  intro d hd
  obtain ⟨v, -, hv⟩ := (mem_iff_of_forall₂ h).1 hd
  exact ht.isRead (hv "")

/-- The items of two arrays stand for the same data just when each item stands for the same datum
as some item of the other array. -/
theorem same_data_iff (has : ∀ v ∈ as, ∃ d, StandsFor item v d)
    (hbs : ∀ w ∈ bs, ∃ d, StandsFor item w d) :
    (∀ d, (∃ v ∈ as, StandsFor item v d) ↔ ∃ w ∈ bs, StandsFor item w d) ↔
      (∀ v ∈ as, ∃ w ∈ bs, ∃ d, StandsFor item v d ∧ StandsFor item w d) ∧
        ∀ w ∈ bs, ∃ v ∈ as, ∃ d, StandsFor item v d ∧ StandsFor item w d := by
  constructor
  · intro hsame
    refine ⟨fun v hv => ?_, fun w hw => ?_⟩
    · obtain ⟨d, hvd⟩ := has v hv
      obtain ⟨w, hw, hwd⟩ := (hsame d).1 ⟨v, hv, hvd⟩
      exact ⟨w, hw, d, hvd, hwd⟩
    · obtain ⟨d, hwd⟩ := hbs w hw
      obtain ⟨v, hv, hvd⟩ := (hsame d).2 ⟨w, hw, hwd⟩
      exact ⟨v, hv, d, hvd, hwd⟩
  · rintro ⟨hsub, hsup⟩ d
    constructor
    · rintro ⟨v, hv, hvd⟩
      obtain ⟨w, hw, d', hvd', hwd'⟩ := hsub v hv
      exact ⟨w, hw, hvd.unique hvd' ▸ hwd'⟩
    · rintro ⟨w, hw, hwd⟩
      obtain ⟨v, hv, d', hvd', hwd'⟩ := hsup w hw
      exact ⟨v, hv, hwd.unique hwd' ▸ hvd'⟩

/-- The set is written as an array whose items, read back, are in strictly ascending order, one
for each datum that some item of `vs` stands for. -/
def WrittenInOrder (item : WireType) (vs : List Value) (A : Datum) : Prop :=
  ∃ ws ds, (∀ label, A.encode label = .ok (.array ws)) ∧ Forall₂ (StandsFor item) ws ds ∧
    ds.Pairwise (Precedes item) ∧ ds.Nodup ∧ ∀ d, d ∈ ds ↔ ∃ v ∈ vs, StandsFor item v d

theorem writtenInOrder {ds : List Datum} (hitem : Sortable item)
    (has : Forall₂ (StandsFor item) as ds) :
    WrittenInOrder item as (.set (Datum.sortedSet ds)) := by
  have hds := hitem.isRead_of_forall₂ has
  have hreads : ∀ d ∈ Datum.sortedSet ds, ReadsAs item d d := fun d hd =>
    (hds d ((Datum.mem_sortedSet_iff hds).1 hd)).readsAs
  refine ⟨_, Datum.sortedSet ds, Datum.encode_set fun d hd => (hreads d hd).1, ?_,
    Datum.pairwise_precedes_sortedSet hds,
    Datum.nodup_of_ascending (Datum.pairwise_sortedSet fun d hd => (hds d hd).hasType), fun d => ?_⟩
  · rw [forall₂_map_left_iff]
    exact forall₂_same.2 fun d hd => (hreads d hd).2
  · rw [Datum.mem_sortedSet_iff hds, mem_iff_of_forall₂ has]

/-- Arrays whose items can be read are read as sets. The sets are the same just when every item of
each array stands for the same datum as some item of the other, and a set is written in strictly
ascending order with each of its members once. -/
theorem read_set_canonical (hitem : Sortable item)
    (has : ∀ v ∈ as, ∃ label d, item.decode label v = .ok d)
    (hbs : ∀ w ∈ bs, ∃ label d, item.decode label w = .ok d) :
    ∃ A B, StandsFor (.set item) (.array as) A ∧ StandsFor (.set item) (.array bs) B ∧
      (A = B ↔ (∀ v ∈ as, ∃ w ∈ bs, ∃ d, StandsFor item v d ∧ StandsFor item w d) ∧
        ∀ w ∈ bs, ∃ v ∈ as, ∃ d, StandsFor item v d ∧ StandsFor item w d) ∧
      WrittenInOrder item as A ∧ WrittenInOrder item bs B := by
  have has := exists_standsFor has
  have hbs := exists_standsFor hbs
  obtain ⟨ds, hds⟩ := exists_forall₂_standsFor has
  obtain ⟨es, hes⟩ := exists_forall₂_standsFor hbs
  refine ⟨_, _, standsFor_set hds, standsFor_set hes, ?_, writtenInOrder hitem hds,
    writtenInOrder hitem hes⟩
  rw [Datum.set.injEq, Datum.sortedSet_eq_iff (hitem.isRead_of_forall₂ hds)
    (hitem.isRead_of_forall₂ hes), ← same_data_iff has hbs]
  simp only [mem_iff_of_forall₂ hds, mem_iff_of_forall₂ hes]

end

/-- Neither the order of the items nor repetitions nor the spelling of a number make a
difference. -/
theorem read_set_canonical_numbers :
    let item : WireType := .list .integer
    let as : List Value := [.array [.string "7"], .array [], .array [.string " +7 "]]
    let bs : List Value := [.array [], .array [.int 7]]
    (∀ v ∈ as, ∃ label d, item.decode label v = .ok d) ∧
      (∀ w ∈ bs, ∃ label d, item.decode label w = .ok d) ∧
      ∃ A, StandsFor (.set item) (.array as) A ∧ StandsFor (.set item) (.array bs) A ∧
        WrittenInOrder item as A := by
  intro item as bs
  have hempty : StandsFor item (.array []) (.list []) := fun _ => rfl
  have hseven : StandsFor item (.array [.int 7]) (.list [.integer 7]) := fun _ => rfl
  have hplain : StandsFor item (.array [.string "7"]) (.list [.integer 7]) := fun _ => rfl
  have hsigned : StandsFor item (.array [.string " +7 "]) (.list [.integer 7]) := fun _ => rfl
  have has : ∀ v ∈ as, ∃ label d, item.decode label v = .ok d := by
    simp only [as, forall_mem_cons]
    exact ⟨⟨"", _, hplain ""⟩, ⟨"", _, hempty ""⟩, ⟨"", _, hsigned ""⟩, forall_mem_nil _⟩
  have hbs : ∀ w ∈ bs, ∃ label d, item.decode label w = .ok d := by
    simp only [bs, forall_mem_cons]
    exact ⟨⟨"", _, hempty ""⟩, ⟨"", _, hseven ""⟩, forall_mem_nil _⟩
  obtain ⟨A, B, hA, hB, hsame, hwritten, -⟩ := read_set_canonical (.list .integer) has hbs
  have hAB : A = B := by
    rw [hsame]
    simp only [as, bs, forall_mem_cons, exists_mem_cons_iff]
    refine ⟨⟨.inr (.inl ⟨_, hplain, hseven⟩), .inl ⟨_, hempty, hempty⟩,
      .inr (.inl ⟨_, hsigned, hseven⟩), forall_mem_nil _⟩,
      .inr (.inl ⟨_, hempty, hempty⟩), .inl ⟨_, hplain, hseven⟩, forall_mem_nil _⟩
  exact ⟨has, hbs, A, hA, hAB ▸ hB, hwritten⟩

end PoolClient.Schema
