import PoolClient.Wire.Value
/-!
# Members of structures

Members with different names come out of sorting as they went in, in ascending order
(`sortMembers_perm`). Members that are in that order stay as they are (`sortMembers_eq_self`),
and each is found by its name (`member?_sortMembers_of_mem`). Of several members with one name the
last is kept (`member?_sortMembers`).
-/

namespace PoolClient.Value

open List

variable {members members' : List (String × Value)} {name : String} {value : Value}

/-! ## Sorting -/

/-- A member with a new name joins the others. -/
theorem insertMember_perm (h : ∀ m ∈ members, m.1 ≠ name) :
    insertMember name value members ~ (name, value) :: members := by
  induction members with
  | nil => exact .refl _
  | cons m rest ih =>
    have hne : name ≠ m.1 := (h m mem_cons_self).symm
    have hrest : insertMember name value rest ~ (name, value) :: rest :=
      ih fun m hm => h m (mem_cons_of_mem _ hm)
    rw [insertMember, if_neg hne]
    split
    · exact .refl _
    · exact (hrest.cons _).trans (.swap ..)

theorem foldl_insertMember_perm {sorted : List (String × Value)}
    (h : ((members ++ sorted).map (·.1)).Nodup) :
    members.foldl (fun sorted m => insertMember m.1 m.2 sorted) sorted ~ members ++ sorted := by
  induction members generalizing sorted with
  | nil => exact .refl _
  | cons m rest ih =>
    have hnew : ∀ m' ∈ sorted, m'.1 ≠ m.1 := by
      intro m' hm' heq
      have hm : m.1 ∉ (rest ++ sorted).map (·.1) := (nodup_cons.1 h).1
      exact hm (heq ▸ mem_map_of_mem (mem_append_right _ hm'))
    have hinsert : rest ++ insertMember m.1 m.2 sorted ~ m :: (rest ++ sorted) :=
      ((insertMember_perm hnew).append_left rest).trans perm_middle
    rw [foldl_cons]
    refine (ih ?_).trans hinsert
    exact (hinsert.map _).nodup_iff.2 h

/-- Sorting keeps members that have different names. -/
theorem sortMembers_perm (h : (members.map (·.1)).Nodup) : sortMembers members ~ members := by
  have hperm := @foldl_insertMember_perm members [] (by simpa using h)
  rwa [append_nil] at hperm

theorem nodup_names (h : members.Pairwise (·.1 < ·.1)) : (members.map (·.1)).Nodup := by
  rw [nodup_iff_pairwise_ne, pairwise_map]
  refine h.imp ?_
  intro a b hlt heq
  rw [heq] at hlt
  exact String.lt_irrefl _ hlt

/-- Members in any order are sorted into the ascending order that they have. -/
theorem sortMembers_eq_of_perm (h : members.Pairwise (·.1 < ·.1)) (hperm : members' ~ members) :
    sortMembers members' = members := by
  have hnames : (members'.map (·.1)).Nodup := (hperm.map _).nodup_iff.2 (nodup_names h)
  refine Perm.eq_of_pairwise (fun a b _ _ hab hba => ?_) (pairwise_sortMembers members') h
    ((sortMembers_perm hnames).trans hperm)
  exact absurd (String.lt_trans hab hba) (String.lt_irrefl _)

/-- Members in ascending order stay as they are. -/
theorem sortMembers_eq_self (h : members.Pairwise (·.1 < ·.1)) : sortMembers members = members :=
  sortMembers_eq_of_perm h (.refl _)

/-- A member after setting one was there before, or is the one that was set. -/
theorem mem_insertMember {m : String × Value} (h : m ∈ insertMember name value members) :
    m = (name, value) ∨ m ∈ members := by
  induction members with
  | nil => exact .inl (mem_singleton.1 h)
  | cons x rest ih =>
    rw [insertMember] at h
    split at h
    · exact mem_cons.1 h
    · split at h
      · exact (mem_cons.1 h).imp_right (mem_cons_of_mem _)
      · rcases mem_cons.1 h with rfl | h
        · exact .inr mem_cons_self
        · exact (ih h).imp_right (mem_cons_of_mem _)

theorem mem_foldl_insertMember {sorted : List (String × Value)} {m : String × Value}
    (h : m ∈ members.foldl (fun sorted m => insertMember m.1 m.2 sorted) sorted) :
    m ∈ members ∨ m ∈ sorted := by
  induction members generalizing sorted with
  | nil => exact .inr h
  | cons x rest ih =>
    rcases ih h with h | h
    · exact .inl (mem_cons_of_mem _ h)
    · rcases mem_insertMember h with rfl | h
      · exact .inl mem_cons_self
      · exact .inr h

/-- Sorting keeps nothing but the members that are sorted. -/
theorem mem_of_mem_sortMembers {m : String × Value} (h : m ∈ sortMembers members) :
    m ∈ members :=
  (mem_foldl_insertMember h).resolve_right not_mem_nil

/-! ## Looking up -/

/-- A member is found by its name if no other has that name. -/
theorem member?_of_mem (h : (members.map (·.1)).Nodup) (hmem : (name, value) ∈ members) :
    member? members name = some value := by
  induction members with
  | nil => cases hmem
  | cons m rest ih =>
    obtain ⟨hm, hrest⟩ := nodup_cons.1 h
    rw [member?_cons m.1 name m.2 rest]
    rcases mem_cons.1 hmem with rfl | hmem
    · exact if_pos rfl
    · have hname : name ∈ rest.map (·.1) := mem_map.2 ⟨_, hmem, rfl⟩
      have hne : name ≠ m.1 := by
        rintro rfl
        exact hm hname
      rw [if_neg hne]
      exact ih hrest hmem

/-- Sorting members that have different names does not change what is found. -/
theorem member?_sortMembers_of_mem (h : (members.map (·.1)).Nodup)
    (hmem : (name, value) ∈ members) : member? (sortMembers members) name = some value := by
  have hperm := sortMembers_perm h
  exact member?_of_mem ((hperm.map _).nodup_iff.2 h) (hperm.mem_iff.2 hmem)

theorem mem_of_member? (h : member? members name = some value) : (name, value) ∈ members := by
  obtain ⟨m, hm, rfl⟩ := Option.map_eq_some_iff.1 h
  have hname : m.1 = name := by simpa using find?_some hm
  subst hname
  exact mem_of_find?_eq_some hm

/-- Members in ascending order are known by what is found among them. -/
theorem eq_of_member?_eq (h : members.Pairwise (·.1 < ·.1)) (h' : members'.Pairwise (·.1 < ·.1))
    (hsame : ∀ name, member? members name = member? members' name) : members = members' := by
  have hnames := nodup_names h
  have hnames' := nodup_names h'
  have hmem : ∀ m, m ∈ members ↔ m ∈ members' := by
    rintro ⟨name, value⟩
    constructor
    · exact fun hm => mem_of_member? ((hsame name).symm.trans (member?_of_mem hnames hm))
    · exact fun hm => mem_of_member? ((hsame name).trans (member?_of_mem hnames' hm))
  have hnodup : ∀ {ms : List (String × Value)}, (ms.map (·.1)).Nodup → ms.Nodup :=
    fun hms => (pairwise_map.1 hms).imp fun hne heq => hne (congrArg Prod.fst heq)
  have hperm : members' ~ members :=
    (perm_ext_iff_of_nodup (hnodup hnames') (hnodup hnames)).2 fun m => (hmem m).symm
  rw [← sortMembers_eq_of_perm h hperm, sortMembers_eq_self h']

theorem member?_append (members members' : List (String × Value)) (name : String) :
    member? (members ++ members') name = (member? members name).or (member? members' name) := by
  rw [member?, find?_append, Option.map_or]
  rfl

/-- Sorting keeps the last of the members of each name. -/
theorem member?_sortMembers (members : List (String × Value)) (name : String) :
    member? (sortMembers members) name = member? members.reverse name := by
  suffices ∀ sorted, member? (members.foldl (fun sorted m => insertMember m.1 m.2 sorted) sorted)
      name = member? (members.reverse ++ sorted) name by
    have h := this []
    rwa [append_nil] at h
  induction members with
  | nil => exact fun sorted => rfl
  | cons m rest ih =>
    intro sorted
    rw [foldl_cons, ih, reverse_cons, append_assoc, member?_append, member?_append,
      member?_insertMember, singleton_append, member?_cons]

end PoolClient.Value
