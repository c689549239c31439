import Mathlib.Data.List.Forall2
/-!
# Outcomes of steps

What is known of the steps of a computation from its outcome: if it gives a value, each of its
steps gave one (`map_eq_ok`, `bind_eq_ok`), and if it fails, one of them failed (`map_eq_error`,
`bind_eq_error`). A step for each item of a list gives a value for each (`mapM_eq_ok_iff`), or
fails at the first item whose step fails (`mapM_eq_error_iff`).
-/

namespace PoolClient

variable {ε α β : Type} {r : Except ε α} {e : ε} {b : β}

theorem map_eq_ok {g : α → β} (h : r.map g = .ok b) : ∃ a, r = .ok a ∧ g a = b := by
  cases r with
  | error e => cases h
  | ok a => exact ⟨a, rfl, Except.ok.inj h⟩

theorem bind_eq_ok {g : α → Except ε β} (h : r >>= g = .ok b) : ∃ a, r = .ok a ∧ g a = .ok b := by
  cases r with
  | error e => cases h
  | ok a => exact ⟨a, rfl, h⟩

theorem map_eq_error {g : α → β} (h : r.map g = .error e) : r = .error e := by
  cases r with
  | error e => exact congrArg Except.error (Except.error.inj h)
  | ok a => cases h

theorem bind_eq_error {g : α → Except ε β} (h : r >>= g = .error e) :
    r = .error e ∨ ∃ a, r = .ok a ∧ g a = .error e := by
  cases r with
  | error e => exact .inl (congrArg Except.error (Except.error.inj h))
  | ok a => exact .inr ⟨a, rfl, h⟩

theorem bind_pure_eq_error_iff {g : α → β} :
    (r >>= fun a => pure (g a)) = .error e ↔ r = .error e := by
  cases r <;> simp [bind, Except.bind, pure, Except.pure]

/-! ## A step for each item -/

section

open List

variable {step : α → Except ε β} {as : List α}

theorem mapM_cons_eq (step : α → Except ε β) (a : α) (rest : List α) :
    (a :: rest).mapM step = step a >>= fun b => (rest.mapM step).map (b :: ·) :=
  mapM_cons

theorem mapM_eq_ok_iff {bs : List β} :
    as.mapM step = .ok bs ↔ Forall₂ (fun a b => step a = .ok b) as bs := by
  induction as generalizing bs with
  | nil =>
    rw [forall₂_nil_left_iff, mapM_nil]
    exact ⟨fun h => (Except.ok.inj h).symm, fun h => h ▸ rfl⟩
  | cons a rest ih =>
    rw [mapM_cons_eq, forall₂_cons_left_iff]
    constructor
    · intro h
      obtain ⟨b, hb, h⟩ := bind_eq_ok h
      obtain ⟨bs, hbs, rfl⟩ := map_eq_ok h
      exact ⟨b, bs, hb, ih.1 hbs, rfl⟩
    · rintro ⟨b, bs, hb, hbs, rfl⟩
      rw [hb, ih.2 hbs]
      rfl

/-- What comes of all steps together comes of one of them. -/
theorem exists_of_mapM_eq_ok {bs : List β} (h : as.mapM step = .ok bs) (hb : b ∈ bs) :
    ∃ a ∈ as, step a = .ok b := by
  have h := mapM_eq_ok_iff.1 h
  obtain ⟨i, hi, rfl⟩ := getElem_of_mem hb
  have hi' : i < as.length := h.length_eq ▸ hi
  exact ⟨as[i], getElem_mem hi', h.get hi' hi⟩

theorem mapM_eq_error_iff :
    as.mapM step = .error e ↔ ∃ before a after, as = before ++ a :: after ∧
      (∀ a' ∈ before, ∃ b, step a' = .ok b) ∧ step a = .error e := by
  induction as with
  | nil => simp [pure, Except.pure]
  | cons a rest ih =>
    rw [mapM_cons_eq]
    constructor
    · intro h
      obtain h | ⟨b, hb, h⟩ := bind_eq_error h
      · exact ⟨[], a, rest, rfl, forall_mem_nil _, h⟩
      · obtain ⟨before, a', after, rfl, hbefore, ha'⟩ := ih.1 (map_eq_error h)
        exact ⟨a :: before, a', after, rfl, forall_mem_cons.2 ⟨⟨b, hb⟩, hbefore⟩, ha'⟩
    · rintro ⟨before, a', after, has, hbefore, ha'⟩
      cases before with
      | nil =>
        obtain ⟨rfl, rfl⟩ := cons.inj has
        rw [ha']
        rfl
      | cons a'' before =>
        obtain ⟨rfl, rfl⟩ := cons.inj has
        obtain ⟨⟨b, hb⟩, hbefore⟩ := forall_mem_cons.1 hbefore
        rw [hb, ih.2 ⟨before, a', after, rfl, hbefore, ha'⟩]
        rfl

/-- If some step fails, and steps fail in one way only, then all steps together fail in that
way. -/
theorem exists_mapM_eq_error {P : ε → Prop} (hfails : ∃ a ∈ as, ∃ e, step a = .error e)
    (herrors : ∀ a ∈ as, ∀ e, step a = .error e → P e) : ∃ e, as.mapM step = .error e ∧ P e := by
  cases h : as.mapM step with
  | ok bs =>
    obtain ⟨a, ha, e, he⟩ := hfails
    obtain ⟨i, hi, rfl⟩ := getElem_of_mem ha
    have h := mapM_eq_ok_iff.1 h
    have hok : step as[i] = .ok _ := h.get hi (h.length_eq ▸ hi)
    rw [he] at hok
    cases hok
  | error e =>
    obtain ⟨before, a, after, rfl, -, ha⟩ := mapM_eq_error_iff.1 h
    exact ⟨e, rfl, herrors a (mem_append_right _ mem_cons_self) e ha⟩

end

end PoolClient
