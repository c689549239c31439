import PoolClient.Schema.Datum
/-!
# The order of typed data

Comparing two data the other way round swaps the outcome (`compare_swap`). So a list that is
strictly ascending is what sorting makes of it, for the items of a set (`sortedSet_eq_self`), and
in whatever order they come for the entries of a mapping (`sortedMap_eq`).
-/

namespace PoolClient.Schema

/-! ## Orientation -/

theorem swap_compare {α : Type} [Ord α] [Std.OrientedOrd α] (a b : α) :
    (compare a b).swap = compare b a :=
  Std.OrientedCmp.eq_swap.symm

theorem Label.compare_swap (a b : Label) : (a.compare b).swap = b.compare a := by
  unfold Label.compare
  cases a.place with
  | none =>
    cases b.place with
    | none => exact swap_compare a.text b.text
    | some j => rfl
  | some i =>
    cases b.place with
    | none => rfl
    | some j => exact swap_compare i j

namespace Datum

mutual

/-- Comparing the other way round swaps the outcome. -/
theorem compare_swap : ∀ a b : Datum, (a.compare b).swap = b.compare a
  | .text s, b => by
    cases b with
    | text t => exact swap_compare s t
    | _ => rfl
  | .integer m, b => by
    cases b with
    | integer n => exact swap_compare m.toInt n.toInt
    | _ => rfl
  | .real x, b => by cases b <;> rfl
  | .flag p, b => by
    cases b with
    | flag q => exact swap_compare p q
    | _ => rfl
  | .instant s, b => by
    cases b with
    | instant t =>
      simp only [compare, Time.Instant.compare, Ordering.swap_then, swap_compare]
    | _ => rfl
  | .nothing, b => by cases b <;> rfl
  | .wire v, b => by cases b <;> rfl
  | .reference s, b => by
    cases b with
    | reference t => exact swap_compare s t
    | _ => rfl
  | .label l, b => by
    cases b with
    | label m => exact l.compare_swap m
    | _ => rfl
  | .list as, b => by
    cases b with
    | list bs => exact compareItems_swap as bs
    | _ => rfl
  | .set as, b => by
    cases b with
    | set bs => exact compareItems_swap as bs
    | _ => rfl
  | .map as, b => by
    cases b with
    | map bs => exact compareEntries_swap as bs
    | _ => rfl
  | .record title fields, b => by cases b <;> rfl

theorem compareItems_swap : ∀ as bs : List Datum, (compareItems as bs).swap = compareItems bs as
  | [], [] => rfl
  | [], _ :: _ => rfl
  | _ :: _, [] => rfl
  | a :: as, b :: bs => by
    simp only [compareItems, Ordering.swap_then, compare_swap a b, compareItems_swap as bs]

theorem compareEntries_swap : ∀ as bs : List (Datum × Datum),
    (compareEntries as bs).swap = compareEntries bs as
  | [], [] => rfl
  | [], _ :: _ => rfl
  | _ :: _, [] => rfl
  | (k, v) :: as, (l, w) :: bs => by
    simp only [compareEntries, Ordering.swap_then, compare_swap k l, compare_swap v w,
      compareEntries_swap as bs]

end

theorem compare_self (a : Datum) : a.compare a = .eq := by
  have h := compare_swap a a
  cases hcompare : a.compare a with
  | eq => rfl
  | lt => rw [hcompare] at h; cases h
  | gt => rw [hcompare] at h; cases h

theorem compare_eq_gt {a b : Datum} (h : a.compare b = .lt) : b.compare a = .gt := by
  rw [← compare_swap, h]
  rfl

/-! ## Sets -/

/-- An item that is greater than all others goes to the end. -/
theorem insertItem_of_gt {item : Datum} {items : List Datum}
    (h : ∀ x ∈ items, item.compare x = .gt) : insertItem item items = items ++ [item] := by
  induction items with
  | nil => rfl
  | cons x rest ih =>
    have hx : item.compare x = .gt := h x List.mem_cons_self
    have hrest := ih fun x hx => h x (List.mem_cons_of_mem _ hx)
    rw [insertItem, hx]
    simp only [hrest, List.cons_append]

theorem foldl_insertItem {items sorted : List Datum}
    (h : (sorted ++ items).Pairwise fun a b => a.compare b = .lt) :
    items.foldl (fun sorted x => insertItem x sorted) sorted = sorted ++ items := by
  induction items generalizing sorted with
  | nil => rw [List.foldl_nil, List.append_nil]
  | cons x rest ih =>
    have hx : insertItem x sorted = sorted ++ [x] := by
      refine insertItem_of_gt fun y hy => compare_eq_gt ?_
      exact (List.pairwise_append.1 h).2.2 y hy x List.mem_cons_self
    have hsplit : sorted ++ x :: rest = sorted ++ [x] ++ rest := List.append_cons ..
    rw [hsplit] at h ⊢
    rw [List.foldl_cons, hx, ih h]

/-- The items of a set in ascending order stay as they are. -/
theorem sortedSet_eq_self {items : List Datum}
    (h : items.Pairwise fun a b => a.compare b = .lt) : sortedSet items = items :=
  foldl_insertItem h

/-! ## Mappings -/

/-- The keys of the entries are strictly ascending. -/
def Ascending (entries : List (Datum × Datum)) : Prop :=
  entries.Pairwise fun a b => a.1.compare b.1 = .lt

open List

theorem compare_ne_eq_symm {a b : Datum} (h : a.compare b ≠ .eq) : b.compare a ≠ .eq := by
  intro hba
  rw [← compare_swap, hba] at h
  exact h rfl

/-- An entry with a new key joins the others. -/
theorem insertEntry_perm {key value : Datum} {entries : List (Datum × Datum)}
    (h : ∀ e ∈ entries, key.compare e.1 ≠ .eq) :
    insertEntry key value entries ~ (key, value) :: entries := by
  induction entries with
  | nil => exact .refl _
  | cons e rest ih =>
    have hne : key.compare e.1 ≠ .eq := h e mem_cons_self
    have hrest := ih fun e he => h e (mem_cons_of_mem _ he)
    rw [insertEntry]
    split
    · exact .refl _
    · rename_i heq
      exact absurd heq hne
    · exact (hrest.cons _).trans (.swap ..)

theorem foldl_insertEntry_perm {entries sorted : List (Datum × Datum)}
    (h : (sorted ++ entries).Pairwise fun a b => a.1.compare b.1 ≠ .eq) :
    entries.foldl (fun sorted e => insertEntry e.1 e.2 sorted) sorted ~ sorted ++ entries := by
  induction entries generalizing sorted with
  | nil => simp
  | cons e rest ih =>
    have hnew : ∀ x ∈ sorted, e.1.compare x.1 ≠ .eq := fun x hx =>
      compare_ne_eq_symm ((pairwise_append.1 h).2.2 x hx e mem_cons_self)
    have hmove : insertEntry e.1 e.2 sorted ++ rest ~ sorted ++ e :: rest :=
      ((insertEntry_perm hnew).append_right rest).trans perm_middle.symm
    rw [foldl_cons]
    exact (ih (hmove.symm.pairwise h compare_ne_eq_symm)).trans hmove

/-- Sorting keeps entries whose keys all differ. -/
theorem sortedMap_perm {entries : List (Datum × Datum)}
    (h : entries.Pairwise fun a b => a.1.compare b.1 ≠ .eq) : sortedMap entries ~ entries :=
  foldl_insertEntry_perm h

/-- Setting an entry of an ascending list in a part of it gives a part of it. -/
theorem insertEntry_sublist {sorted part : List (Datum × Datum)} (hsorted : Ascending sorted)
    (hpart : part <+ sorted) {e : Datum × Datum} (he : e ∈ sorted) :
    insertEntry e.1 e.2 part <+ sorted := by
  induction hpart with
  | slnil => cases he
  | @cons part rest s hpart ih =>
    obtain ⟨hs, hrest⟩ := pairwise_cons.1 hsorted
    rcases mem_cons.1 he with rfl | he
    · have hfront : insertEntry e.1 e.2 part = e :: part := by
        cases part with
        | nil => rfl
        | cons x part =>
          rw [insertEntry, hs x (hpart.subset mem_cons_self)]
      rw [hfront]
      exact hpart.cons_cons e
    · exact (ih hrest he).cons s
  | @cons_cons part rest s hpart ih =>
    obtain ⟨hs, hrest⟩ := pairwise_cons.1 hsorted
    rcases mem_cons.1 he with rfl | he
    · rw [insertEntry, compare_self]
      exact hpart.cons_cons e
    · rw [insertEntry, compare_eq_gt (hs e he)]
      exact (ih hrest he).cons_cons s

theorem foldl_insertEntry_sublist {sorted entries part : List (Datum × Datum)}
    (hsorted : Ascending sorted) (hpart : part <+ sorted) (hentries : entries ⊆ sorted) :
    entries.foldl (fun sorted e => insertEntry e.1 e.2 sorted) part <+ sorted := by
  induction entries generalizing part with
  | nil => exact hpart
  | cons e rest ih =>
    obtain ⟨he, hrest⟩ := cons_subset.1 hentries
    exact ih (insertEntry_sublist hsorted hpart he) hrest

/-- Entries in any order are sorted into the ascending order that they have. -/
theorem sortedMap_eq {sorted entries : List (Datum × Datum)} (hsorted : Ascending sorted)
    (hperm : entries ~ sorted) : sortedMap entries = sorted := by
  have hsub : sortedMap entries <+ sorted :=
    foldl_insertEntry_sublist hsorted (nil_sublist _) hperm.subset
  have hsorted' : sorted.Pairwise fun a b => a.1.compare b.1 ≠ .eq :=
    hsorted.imp fun h => by rw [h]; exact nofun
  have hentries : entries.Pairwise fun a b => a.1.compare b.1 ≠ .eq :=
    hperm.symm.pairwise hsorted' compare_ne_eq_symm
  exact hsub.eq_of_length ((sortedMap_perm hentries).trans hperm).length_eq

end Datum

end PoolClient.Schema
