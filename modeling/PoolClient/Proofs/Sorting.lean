import PoolClient.Proofs.Codec
/-!
# Sets and mappings as they are built

Data of one type are in order: if two neighbours are not descending, their outcomes say how the
ends compare (`HasType.chain`). So a set that is built from data of one type is strictly
ascending (`pairwise_sortedSet`), and a mapping has strictly ascending keys
(`ascending_sortedMap`), whatever their items and entries are and in whatever order they come.
-/

namespace PoolClient.Schema

/-! ## Chains of comparisons -/

/-- If neither `x` nor `y` is descending, then `z` is their composition. So it is when `x` and `y`
compare neighbours and `z` compares the ends. -/
def Chain (x y z : Ordering) : Prop :=
  x ≠ .gt → y ≠ .gt → z = x.then y

theorem then_lt {x : Ordering} (h : x ≠ .gt) : x.then .lt = .lt := by
  cases x with
  | gt => exact absurd rfl h
  | lt | eq => rfl

/-- Chains of the first parts and of the rests are chains of the whole. -/
theorem Chain.then {x y z x' y' z' : Ordering} (h : Chain x y z) (h' : Chain x' y' z') :
    Chain (x.then x') (y.then y') (z.then z') := by
  intro hx hy
  cases x with
  | gt => exact absurd rfl hx
  | lt =>
    cases y with
    | gt => exact absurd rfl hy
    | lt | eq => rw [h (by decide) (by decide)]; rfl
  | eq =>
    cases y with
    | gt => exact absurd rfl hy
    | lt => rw [h (by decide) (by decide)]; exact (then_lt hx).symm
    | eq => rw [h (by decide) (by decide)]; exact h' hx hy

theorem chain_compare {α : Type} [Ord α] [Std.TransOrd α] (a b c : α) :
    Chain (compare a b) (compare b c) (compare a c) := by
  intro hab hbc
  cases hx : compare a b with
  | gt => exact absurd hx hab
  | lt =>
    cases hy : compare b c with
    | gt => exact absurd hy hbc
    | lt => exact Std.TransCmp.lt_trans hx hy
    | eq => exact Std.TransCmp.lt_of_lt_of_eq hx hy
  | eq =>
    cases hy : compare b c with
    | gt => exact absurd hy hbc
    | lt => exact Std.TransCmp.lt_of_eq_of_lt hx hy
    | eq => exact Std.TransCmp.eq_trans hx hy

theorem Label.chain (a b c : Label) : Chain (a.compare b) (b.compare c) (a.compare c) := by
  unfold Label.compare
  cases a.place with
  | none =>
    cases b.place with
    | none =>
      cases c.place with
      | none => exact chain_compare a.text b.text c.text
      | some k => exact fun _ h => absurd rfl h
    | some j => exact fun h => absurd rfl h
  | some i =>
    cases b.place with
    | none =>
      cases c.place with
      | none => exact fun _ _ => rfl
      | some k => exact fun _ h => absurd rfl h
    | some j =>
      cases c.place with
      | none => exact fun h _ => (then_lt h).symm
      | some k => exact chain_compare i j k

namespace Datum

theorem chain_compareItems {as bs cs : List Datum}
    (h : ∀ a ∈ as, ∀ b ∈ bs, ∀ c ∈ cs, Chain (a.compare b) (b.compare c) (a.compare c)) :
    Chain (compareItems as bs) (compareItems bs cs) (compareItems as cs) := by
  induction as generalizing bs cs with
  | nil =>
    cases bs with
    | nil => exact fun _ _ => rfl
    | cons b bs =>
      cases cs with
      | nil => exact fun _ h => absurd rfl h
      | cons c cs => exact fun _ _ => rfl
  | cons a as ih =>
    cases bs with
    | nil => exact fun h => absurd rfl h
    | cons b bs =>
      cases cs with
      | nil => exact fun _ h => absurd rfl h
      | cons c cs =>
        refine (h a ?_ b ?_ c ?_).then (ih fun a ha b hb c hc => h a ?_ b ?_ c ?_)
        all_goals simp [*]

theorem chain_compareEntries {as bs cs : List (Datum × Datum)}
    (hkeys : ∀ a ∈ as, ∀ b ∈ bs, ∀ c ∈ cs,
      Chain (a.1.compare b.1) (b.1.compare c.1) (a.1.compare c.1))
    (hvalues : ∀ a ∈ as, ∀ b ∈ bs, ∀ c ∈ cs,
      Chain (a.2.compare b.2) (b.2.compare c.2) (a.2.compare c.2)) :
    Chain (compareEntries as bs) (compareEntries bs cs) (compareEntries as cs) := by
  induction as generalizing bs cs with
  | nil =>
    cases bs with
    | nil => exact fun _ _ => rfl
    | cons b bs =>
      cases cs with
      | nil => exact fun _ h => absurd rfl h
      | cons c cs => exact fun _ _ => rfl
  | cons a as ih =>
    cases bs with
    | nil => exact fun h => absurd rfl h
    | cons b bs =>
      cases cs with
      | nil => exact fun _ h => absurd rfl h
      | cons c cs =>
        refine (hkeys a ?_ b ?_ c ?_).then ((hvalues a ?_ b ?_ c ?_).then
          (ih (fun a ha b hb c hc => hkeys a ?_ b ?_ c ?_)
            fun a ha b hb c hc => hvalues a ?_ b ?_ c ?_))
        all_goals simp [*]

end Datum

/-- Data of one type are in order. -/
theorem HasType.chain {t : WireType} {a b c : Datum} (ha : HasType t a) (hb : HasType t b)
    (hc : HasType t c) : Chain (a.compare b) (b.compare c) (a.compare c) := by
  induction ha generalizing b c with
  | text | integer | flag | reference =>
    cases hb
    cases hc
    exact chain_compare _ _ _
  | instant =>
    cases hb
    cases hc
    exact (chain_compare _ _ _).then (chain_compare _ _ _)
  | label =>
    cases hb
    cases hc
    exact Label.chain _ _ _
  | list h ih =>
    cases hb with
    | list hb =>
      cases hc with
      | list hc =>
        exact Datum.chain_compareItems fun a ha b hb' c hc' => ih a ha (hb b hb') (hc c hc')
  | set h _ ih =>
    cases hb with
    | set hb =>
      cases hc with
      | set hc =>
        exact Datum.chain_compareItems fun a ha b hb' c hc' => ih a ha (hb b hb') (hc c hc')
  | map _ _ _ ihkeys ihvalues =>
    cases hb with
    | map hbkeys hbvalues =>
      cases hc with
      | map hckeys hcvalues =>
        exact Datum.chain_compareEntries
          (fun a ha b hb c hc => ihkeys a ha (hbkeys b hb) (hckeys c hc))
          fun a ha b hb c hc => ihvalues a ha (hbvalues b hb) (hcvalues c hc)
  | real | nothing | wire | record =>
    -- There is no order on these types.
    cases hb
    cases hc
    exact fun _ _ => rfl

section

variable {t : WireType} {a b c : Datum} (ha : HasType t a) (hb : HasType t b) (hc : HasType t c)

include ha hb hc

theorem HasType.lt_trans (hab : a.compare b = .lt) (hbc : b.compare c = .lt) :
    a.compare c = .lt := by
  have hchain : a.compare b ≠ .gt → b.compare c ≠ .gt → _ := ha.chain hb hc
  rw [hab, hbc] at hchain
  exact hchain (by decide) (by decide)

theorem HasType.lt_of_eq_of_lt (hab : a.compare b = .eq) (hbc : b.compare c = .lt) :
    a.compare c = .lt := by
  have hchain : a.compare b ≠ .gt → b.compare c ≠ .gt → _ := ha.chain hb hc
  rw [hab, hbc] at hchain
  exact hchain (by decide) (by decide)

end

namespace Datum

variable {t : WireType}

/-! ## Sets -/

theorem mem_insertItem {item x : Datum} {items : List Datum} (h : x ∈ insertItem item items) :
    x = item ∨ x ∈ items := by
  induction items with
  | nil => exact .inl (List.mem_singleton.1 h)
  | cons y rest ih =>
    rw [insertItem] at h
    split at h
    · exact List.mem_cons.1 h
    · exact .inr h
    · rcases List.mem_cons.1 h with rfl | h
      · exact .inr List.mem_cons_self
      · exact (ih h).imp_right (List.mem_cons_of_mem _)

/-- An ascending list stays so when an item of its type is put in. -/
theorem pairwise_insertItem {item : Datum} {items : List Datum} (hitem : HasType t item)
    (hitems : ∀ d ∈ items, HasType t d) (h : items.Pairwise fun a b => a.compare b = .lt) :
    (insertItem item items).Pairwise fun a b => a.compare b = .lt := by
  induction items with
  | nil => exact List.pairwise_singleton _ _
  | cons x rest ih =>
    obtain ⟨hx, hrest⟩ := List.pairwise_cons.1 h
    obtain ⟨htx, htrest⟩ := List.forall_mem_cons.1 hitems
    rw [insertItem]
    split
    · rename_i hlt
      refine List.pairwise_cons.2 ⟨List.forall_mem_cons.2 ⟨hlt, fun y hy => ?_⟩, h⟩
      exact hitem.lt_trans htx (htrest y hy) hlt (hx y hy)
    · exact h
    · rename_i hgt
      refine List.pairwise_cons.2 ⟨fun y hy => ?_, ih htrest hrest⟩
      rcases mem_insertItem hy with rfl | hy
      · rw [← compare_swap, hgt]
        rfl
      · exact hx y hy

theorem foldl_insertItem_spec {items sorted : List Datum} (hitems : ∀ d ∈ items, HasType t d)
    (hsorted : ∀ d ∈ sorted, HasType t d) (h : sorted.Pairwise fun a b => a.compare b = .lt) :
    (items.foldl (fun sorted x => insertItem x sorted) sorted).Pairwise
        (fun a b => a.compare b = .lt) ∧
      ∀ d ∈ items.foldl (fun sorted x => insertItem x sorted) sorted, d ∈ items ∨ d ∈ sorted := by
  induction items generalizing sorted with
  | nil => exact ⟨h, fun d hd => .inr hd⟩
  | cons x rest ih =>
    obtain ⟨hx, hrest⟩ := List.forall_mem_cons.1 hitems
    have hsorted' : ∀ d ∈ insertItem x sorted, HasType t d := by
      intro d hd
      rcases mem_insertItem hd with rfl | hd
      · exact hx
      · exact hsorted d hd
    obtain ⟨hpairwise, hmem⟩ := ih hrest hsorted' (pairwise_insertItem hx hsorted h)
    refine ⟨hpairwise, fun d hd => ?_⟩
    rcases hmem d hd with hd | hd
    · exact .inl (List.mem_cons_of_mem _ hd)
    · rcases mem_insertItem hd with rfl | hd
      · exact .inl List.mem_cons_self
      · exact .inr hd

/-- A set that is built from data of one type is strictly ascending. -/
theorem pairwise_sortedSet {items : List Datum} (h : ∀ d ∈ items, HasType t d) :
    (sortedSet items).Pairwise fun a b => a.compare b = .lt :=
  (foldl_insertItem_spec h (List.forall_mem_nil _) .nil).1

/-- A set holds nothing but the items that it is built from. -/
theorem mem_of_mem_sortedSet {items : List Datum} (h : ∀ d ∈ items, HasType t d) :
    ∀ d ∈ sortedSet items, d ∈ items := by
  intro d hd
  exact ((foldl_insertItem_spec h (List.forall_mem_nil _) .nil).2 d hd).resolve_right
    List.not_mem_nil

/-! ## Mappings -/

theorem mem_insertEntry {key value : Datum} {e : Datum × Datum} {entries : List (Datum × Datum)}
    (h : e ∈ insertEntry key value entries) : e = (key, value) ∨ e ∈ entries := by
  induction entries with
  | nil => exact .inl (List.mem_singleton.1 h)
  | cons x rest ih =>
    rw [insertEntry] at h
    split at h
    · exact List.mem_cons.1 h
    · exact (List.mem_cons.1 h).imp_right (List.mem_cons_of_mem _)
    · rcases List.mem_cons.1 h with rfl | h
      · exact .inr List.mem_cons_self
      · exact (ih h).imp_right (List.mem_cons_of_mem _)

/-- Ascending keys stay so when an entry with a key of their type is set. -/
theorem ascending_insertEntry {key value : Datum} {entries : List (Datum × Datum)}
    (hkey : HasType t key) (hkeys : ∀ e ∈ entries, HasType t e.1) (h : Ascending entries) :
    Ascending (insertEntry key value entries) := by
  induction entries with
  | nil => exact List.pairwise_singleton _ _
  | cons x rest ih =>
    obtain ⟨hx, hrest⟩ := List.pairwise_cons.1 h
    obtain ⟨htx, htrest⟩ := List.forall_mem_cons.1 hkeys
    rw [insertEntry]
    split
    · rename_i hlt
      refine List.pairwise_cons.2 ⟨List.forall_mem_cons.2 ⟨hlt, fun y hy => ?_⟩, h⟩
      exact hkey.lt_trans htx (htrest y hy) hlt (hx y hy)
    · rename_i heq
      refine List.pairwise_cons.2 ⟨fun y hy => ?_, hrest⟩
      exact hkey.lt_of_eq_of_lt htx (htrest y hy) heq (hx y hy)
    · rename_i hgt
      refine List.pairwise_cons.2 ⟨fun y hy => ?_, ih htrest hrest⟩
      rcases mem_insertEntry hy with rfl | hy
      · rw [← compare_swap, hgt]
        rfl
      · exact hx y hy

theorem foldl_insertEntry_spec {entries sorted : List (Datum × Datum)}
    (hentries : ∀ e ∈ entries, HasType t e.1) (hsorted : ∀ e ∈ sorted, HasType t e.1)
    (h : Ascending sorted) :
    Ascending (entries.foldl (fun sorted e => insertEntry e.1 e.2 sorted) sorted) ∧
      ∀ e ∈ entries.foldl (fun sorted e => insertEntry e.1 e.2 sorted) sorted,
        e ∈ entries ∨ e ∈ sorted := by
  induction entries generalizing sorted with
  | nil => exact ⟨h, fun e he => .inr he⟩
  | cons x rest ih =>
    obtain ⟨hx, hrest⟩ := List.forall_mem_cons.1 hentries
    have hsorted' : ∀ e ∈ insertEntry x.1 x.2 sorted, HasType t e.1 := by
      intro e he
      rcases mem_insertEntry he with rfl | he
      · exact hx
      · exact hsorted e he
    obtain ⟨hascending, hmem⟩ := ih hrest hsorted' (ascending_insertEntry hx hsorted h)
    refine ⟨hascending, fun e he => ?_⟩
    rcases hmem e he with he | he
    · exact .inl (List.mem_cons_of_mem _ he)
    · rcases mem_insertEntry he with rfl | he
      · exact .inl List.mem_cons_self
      · exact .inr he

/-- The keys of a mapping that is built from entries with keys of one type are strictly
ascending. -/
theorem ascending_sortedMap {entries : List (Datum × Datum)} (h : ∀ e ∈ entries, HasType t e.1) :
    Ascending (sortedMap entries) :=
  (foldl_insertEntry_spec h (List.forall_mem_nil _) .nil).1

/-- A mapping holds nothing but the entries that it is built from. -/
theorem mem_of_mem_sortedMap {entries : List (Datum × Datum)} (h : ∀ e ∈ entries, HasType t e.1) :
    ∀ e ∈ sortedMap entries, e ∈ entries := by
  intro e he
  exact ((foldl_insertEntry_spec h (List.forall_mem_nil _) .nil).2 e he).resolve_right
    List.not_mem_nil

end Datum

end PoolClient.Schema
