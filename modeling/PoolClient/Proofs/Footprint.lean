import PoolClient.Proofs.Interleaving
/-!
# What programs touch

A `Footprint` bounds what may become of the shared state, and names the logins on which the right
to log in again may be asked for. A program is `Within` a footprint if all that it can do is,
whatever it finds and whatever it is answered. The operations of a session are within every
footprint that admits redirects and changes of the session's own login (`Footprint.Admits`).

If all programs are within a footprint, every run is (`System.run_within`). Two footprints serve
the theory of sessions: with `Footprint.moving` the active endpoint moves only along with its
generation, and with `Footprint.sparing` a login is left alone.
-/

namespace PoolClient

open Time

/-- The generation does not fall in a redirect. -/
theorem Client.generation_le_redirect (c : Client) (source target : Endpoint) :
    c.generation ≤ (c.redirect source target).generation := by
  by_cases h : c.endpoint = source <;> simp [Client.redirect, h]

/-! ## Footprints -/

/-- What may become of the shared state, and the logins whose right may be asked for. -/
structure Footprint where
  changes : Shared → Shared → Prop
  refl : ∀ s, changes s s
  trans : ∀ s s' s'', changes s s' → changes s' s'' → changes s s''
  rights : Nat → Prop

namespace Footprint

/-- The active endpoint moves only along with its generation. -/
def moving : Footprint where
  changes s s' := s'.client = s.client ∨ s.client.generation < s'.client.generation
  refl _ := .inl rfl
  trans s s' s'' h h' := by
    rcases h with h | h <;> rcases h' with h' | h'
    · exact .inl (h'.trans h)
    · exact .inr (h ▸ h')
    · exact .inr (h' ▸ h)
    · exact .inr (Nat.lt_trans h h')
  rights _ := True

/-- The login `i` is left alone, and the generation of the active endpoint does not fall. -/
def sparing (i : Nat) : Footprint where
  changes s s' := s'.login i = s.login i ∧ s.client.generation ≤ s'.client.generation
  refl _ := ⟨rfl, Nat.le_refl _⟩
  trans _ _ _ h h' := ⟨h'.1.trans h.1, Nat.le_trans h.2 h'.2⟩
  rights j := j ≠ i

/-- The footprint has room for the operations of sessions on the login `i`. -/
structure Admits (F : Footprint) (i : Nat) : Prop where
  redirect : ∀ s source target, F.changes s { s with client := s.client.redirect source target }
  login : ∀ s l, F.changes s (s.setLogin i l)
  right : F.rights i

theorem admits_moving (i : Nat) : moving.Admits i where
  redirect s source target := by
    by_cases h : s.client.endpoint = source
    · exact .inr (by simp [Client.redirect, h])
    · exact .inl (by simp [Client.redirect, h])
  login _ _ := .inl rfl
  right := trivial

theorem admits_sparing {i j : Nat} (h : j ≠ i) : (sparing i).Admits j where
  redirect s source target := ⟨rfl, s.client.generation_le_redirect source target⟩
  login _ _ := ⟨by simp [Shared.setLogin, h.symm], Nat.le_refl _⟩
  right := h

end Footprint

/-! ## Programs within a footprint -/

variable {α β : Type} {F : Footprint}

/-- All that the program can do is within the footprint. -/
def Program.Within (F : Footprint) : Program α → Prop
  | .done _ => True
  | .look next => ∀ s, (next s).Within F
  | .change f next => (∀ s, F.changes s (f s)) ∧ next.Within F
  | .note _ next => next.Within F
  | .send _ next => ∀ r, (next r).Within F
  | .pause _ next => next.Within F
  | .acquire i next => F.rights i ∧ next.Within F
  | .release i next => F.rights i ∧ next.Within F

namespace Program

theorem within_bind {p : Program α} {f : α → Program β} (hp : p.Within F)
    (hf : ∀ a, (f a).Within F) : (p.bind f).Within F := by
  induction p with
  | done a => exact hf a
  | look next ih => exact fun s => ih s (hp s)
  | change g next ih => exact ⟨hp.1, ih hp.2⟩
  | note line next ih => exact ih hp
  | send call next ih => exact fun r => ih r (hp r)
  | pause time next ih => exact ih hp
  | acquire i next ih => exact ⟨hp.1, ih hp.2⟩
  | release i next ih => exact ⟨hp.1, ih hp.2⟩

theorem composes_within : Composes (Within F) :=
  ⟨fun _ => trivial, within_bind⟩

theorem within_callPool {i : Nat} (hF : F.Admits i) (method : String) (params : List Value)
    (deadline : Option Duration) : (callPool method params deadline).Within F := by
  intro s r
  dsimp only
  split
  · trivial
  · refine within_bind (fun s => ?_) fun _ _ => trivial
    dsimp only
    split
    · exact ⟨fun s => hF.redirect s _ _, trivial⟩
    · trivial

variable {h : Session}

theorem within_logIn (hF : F.Admits h.login) (c : Credentials) : (h.logIn c).Within F :=
  composes_within.andThen (within_callPool hF _ _ _) fun _ =>
    composes_within.given fun _ _ _ _ => ⟨fun s => hF.login s _, trivial⟩

theorem within_logInAgain (hF : F.Admits h.login) (generation : Nat) :
    (h.logInAgain generation).Within F := by
  refine ⟨hF.right, fun s => ?_⟩
  dsimp only
  split
  · exact ⟨hF.right, trivial⟩
  · split
    · exact ⟨hF.right, trivial⟩
    · exact within_bind (within_logIn hF _) fun _ => ⟨hF.right, trivial⟩

theorem within_call (hF : F.Admits h.login) (method : String) (args : List Value) :
    (h.call method args).Within F := by
  intro s
  dsimp only
  split
  · trivial
  · refine within_bind (within_callPool hF _ _ _) fun first s => ?_
    dsimp only
    split
    · exact composes_within.andThen (within_logInAgain hF _) fun _ => within_callPool hF _ _ _
    · trivial

end Program

/-! ## Runs within a footprint -/

/-- All that is left to do is within the footprint. -/
def Stand.Within (F : Footprint) : Stand α → Prop
  | .idle p => p.Within F
  | .awaiting _ next => ∀ r, (next r).Within F
  | .pausing _ next => next.Within F
  | .queueing i next => F.rights i ∧ next.Within F
  | .ended _ => True

theorem Program.within_settle {p : Program α} (h : p.Within F) (id : Nat) (w : World) :
    F.changes w.shared (p.settle id w).2.shared ∧ (p.settle id w).1.Within F := by
  induction p generalizing w with
  | done a => exact ⟨F.refl _, trivial⟩
  | look next ih => exact ih _ (h _) w
  | change f next ih =>
    obtain ⟨hchange, hnext⟩ := ih h.2 (w.change f)
    exact ⟨F.trans _ _ _ (h.1 _) hchange, hnext⟩
  | note line next ih => exact ih h w
  | send call next ih => exact ⟨F.refl _, h⟩
  | pause time next ih => exact ⟨F.refl _, h⟩
  | acquire i next ih => exact ⟨F.refl _, h⟩
  | release i next ih => exact ih h.2 (w.free i)

namespace System

/-- All that any program has left to do is within the footprint. -/
def Within (F : Footprint) (s : System α) : Prop :=
  ∀ id, (s.stands id).Within F

variable {s s' : System α} {c : Choice} {cs : List Choice}

theorem step_within (h : s.Within F) (hs : s.step c = some s') :
    F.changes s.world.shared s'.world.shared ∧ s'.Within F := by
  obtain ⟨⟨p, w⟩, hentry, rfl⟩ := Option.map_eq_some_iff.1 hs
  have hp : p.Within F ∧ w.shared = s.world.shared := by
    have hid := h c.id
    rcases entry_cases hentry with ⟨hstand, rfl⟩ | ⟨t, hstand, rfl⟩ | ⟨i, hstand, -, rfl⟩ |
      ⟨call, next, r, hstand, rfl, rfl⟩ <;> rw [hstand] at hid
    · exact ⟨hid, rfl⟩
    · exact ⟨hid, rfl⟩
    · exact ⟨hid.2, rfl⟩
    · exact ⟨hid r, rfl⟩
  obtain ⟨hchange, hstand⟩ := Program.within_settle hp.1 c.id w
  refine ⟨hp.2 ▸ hchange, fun id => ?_⟩
  by_cases hid : id = c.id
  · simpa [place, hid] using hstand
  · simpa [place, hid] using h id

theorem run_within (h : s.Within F) (hr : s.run cs = some s') :
    F.changes s.world.shared s'.world.shared ∧ s'.Within F :=
  run_invariant (P := fun s' => F.changes s.world.shared s'.world.shared ∧ s'.Within F)
    (fun _ _ _ hw hs =>
      have hturn := step_within hw.2 hs
      ⟨F.trans _ _ _ hw.1 hturn.1, hturn.2⟩) hr ⟨F.refl _, h⟩

end System

end PoolClient
