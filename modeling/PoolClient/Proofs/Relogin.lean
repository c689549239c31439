import PoolClient.Proofs.Renewal
import PoolClient.Proofs.StaleLogin
/-!
# Logging in again, once for all calls

Any number of calls run on handles of one login, among programs that leave that login alone, and
any of them may be interrupted anywhere. Every call keeps the pact `renewing` (`call_minds`): it
renews the login only with the right to log in again, if the login is still the one that it has
found and the active endpoint has moved since.

So there are no more renewals than the active endpoint has moved since the session logged in, calls
that have found the same login renew it at most once, and who sends a call again sends it with the
reference of a later login than the one it has found (`renewals_of_calls`).
-/

namespace PoolClient

open Session Time

/-! ## Calls to the pool -/

/-- What holds while the program `id` sends calls with the parameters and spares the login. It
outlives the turns of others, and what the program sends is as it should be. -/
structure Steady (i id : Nat) (params : List Value) (A : Annals → Prop) : Prop where
  onward : ∀ a b, A a → Onward i id a b → A b
  sent : ∀ a, A a → a.HasHad i id → a.world.holder i ≠ some id →
    ∃ ref, params.head? = some (.string ref) ∧ a.Supplies i id ref

section Steady

variable {i g₀ id : Nat} {params : List Value} {A : Annals → Prop} {a b : Annals}

/-- A turn that spares the login and sends nothing but the parameters. -/
theorem Steady.allows {w : World} {rest : Annals → Prop} (hA : Steady i id params A) (ha : A a)
    (hab : Undisturbed i g₀ id a b) (hspares : b.world.Spares i w)
    (hsent : ∀ call, w.history = .sent id call :: b.world.history → call.params = params)
    (hrest : A (b.turn (.go id) w) → rest (b.turn (.go id) w)) :
    (renewing i g₀ id).Allows b (.go id) w rest := by
  have hb := hA.onward a b ha hab.toOnward
  have hturn := Onward.of_spares (c := .go id) hspares rfl
  refine ⟨Renewing.of_spares (c := .go id) hab.renewed hspares rfl ?_,
    hrest (hA.onward _ _ hb hturn)⟩
  intro call hcall hhad hout
  rw [hsent call hcall]
  exact hA.sent b hb hhad hout

/-- A turn that spares the login and sends nothing. -/
theorem Steady.allows_quiet {w : World} {rest : Annals → Prop} (hA : Steady i id params A)
    (ha : A a) (hab : Undisturbed i g₀ id a b) (hspares : b.world.Spares i w)
    (hquiet : w.history = b.world.history)
    (hrest : A (b.turn (.go id) w) → rest (b.turn (.go id) w)) :
    (renewing i g₀ id).Allows b (.go id) w rest := by
  refine hA.allows ha hab hspares (fun call hcall => ?_) hrest
  rw [hquiet] at hcall
  exact absurd hcall.symm (List.cons_ne_self _ _)

/-- An answer that renews nothing. -/
theorem Steady.allows_answer {call : Call} {r : Outcome Value} (hA : Steady i id params A)
    (ha : A a) (hr : Renewed i g₀ a)
    (hrenewal : Turn.renewal? i ⟨.answer id r, a.world⟩ = none) :
    (renewing i g₀ id).Allows a (.answer id r) (a.world.record (.answered id call r)) A := by
  have hspares : a.world.Spares i (a.world.record (.answered id call r)) := .record _
  refine ⟨Renewing.of_spares (c := .answer id r) hr hspares hrenewal (by simp [World.record]), ?_⟩
  exact hA.onward _ _ ha (.of_spares (c := .answer id r) hspares hrenewal)

variable {post : Outcome Value → Annals → Prop}

theorem Steady.carries (hA : Steady i id params A) (method : String)
    (herror : ∀ e b, post (.error e) b ↔ A b)
    (hanswer : ∀ b call r, A b → Renewed i g₀ b → (renewing i g₀ id).Allows b (.answer id r)
      (b.world.record (.answered id call r)) (post r)) :
    (renewing i g₀ id).Carries id method params A post where
  rest _ _ ha hab := hA.allows_quiet ha hab .refl rfl fun hb => hb
  move _ _ _ _ ha hab :=
    hA.allows_quiet ha hab ⟨rfl, rfl, Client.generation_le_redirect ..⟩ rfl fun hb => hb
  send _ _ _ ha hab _ hparams :=
    hA.allows ha hab (.record _) (by simp [World.record, hparams]) fun hb => hb
  answer _ b call r ha hab := hanswer b call r (hA.onward _ _ ha hab.toOnward) hab.renewed
  error := herror

/-- A call to the pool. After every answer but a result, what has held before holds again. -/
theorem Steady.callPool_minds {method : String} {deadline : Option Duration}
    (hA : Steady i id params A) (herror : ∀ e b, post (.error e) b ↔ A b)
    (hanswer : ∀ b call r, A b → Renewed i g₀ b → (renewing i g₀ id).Allows b (.answer id r)
      (b.world.record (.answered id call r)) (post r)) (ha : A a) :
    (callPool method params deadline).Minds (renewing i g₀ id) id post a :=
  (hA.carries method herror hanswer).callPool_minds deadline ha

end Steady

/-! ## Logging in with the right to do so -/

/-- The program `id` has the right to log in again, and what has been renewed has been stored. -/
structure Annals.Held (i id : Nat) (a : Annals) : Prop where
  holder : a.world.holder i = some id
  settled : ∀ r ∈ a.renewals i,
    r.replaced.generation < (a.world.shared.login i).generation

/-- The program `id` has the right to log in again, and the active endpoint has moved since the
login that it has found. -/
structure Annals.Entitled (i id : Nat) (l : Login) (a : Annals) : Prop
    extends Annals.Held i id a where
  found : a.found i id = some l
  behind : l.generation < a.world.shared.client.generation

/-- The program `id` has the right to log in again, and the login is still the one that it has
found. -/
structure Annals.Stale (i id : Nat) (l : Login) (a : Annals) : Prop
    extends Annals.Entitled i id l a where
  login : (a.world.shared.login i).generation = l.generation

/-- The program `id` has renewed the login that it has found, and has not stored the new one. -/
structure Annals.Answered (i id : Nat) (l : Login) (ref : String) (a : Annals) : Prop where
  holder : a.world.holder i = some id
  found : a.found i id = some l
  behind : l.generation < a.world.shared.client.generation
  login : (a.world.shared.login i).generation = l.generation
  renewal : ∃ r ∈ a.renewals i, r.ref = ref ∧ r.replaced.generation = l.generation

section Held

variable {i g₀ id : Nat} {a b : Annals} {l : Login} {ref : String}

theorem Annals.Held.onward (h : a.Held i id) (hab : Onward i id a b) : b.Held i id := by
  obtain ⟨hlogin, hrenewals⟩ := hab.frozen h.holder
  exact ⟨hab.holder.1 h.holder, by rw [hlogin, hrenewals]; exact h.settled⟩

theorem Annals.Entitled.onward (h : a.Entitled i id l) (hab : Onward i id a b) :
    b.Entitled i id l where
  toHeld := h.toHeld.onward hab
  found := hab.found l h.found
  behind := Nat.lt_of_lt_of_le h.behind hab.client

theorem Annals.Stale.onward (h : a.Stale i id l) (hab : Onward i id a b) : b.Stale i id l where
  toEntitled := h.toEntitled.onward hab
  login := (congrArg Login.generation (hab.frozen h.holder).1).trans h.login

theorem Annals.Answered.onward (h : a.Answered i id l ref) (hab : Onward i id a b) :
    b.Answered i id l ref where
  holder := hab.holder.1 h.holder
  found := hab.found l h.found
  behind := Nat.lt_of_lt_of_le h.behind hab.client
  login := (congrArg Login.generation (hab.frozen h.holder).1).trans h.login
  renewal := by
    obtain ⟨r, hr, hrenewal⟩ := h.renewal
    exact ⟨r, hab.renewals r hr, hrenewal⟩

theorem Annals.Supplies.onward (h : a.Supplies i id ref) (hab : Onward i id a b) :
    b.Supplies i id ref := by
  obtain ⟨l, hl, r, hr, hrenewal⟩ := h
  exact ⟨l, hab.found l hl, r, hab.renewals r hr, hrenewal⟩

theorem Annals.Supplies.turn {c : Choice} {w : World} (h : a.Supplies i id ref) :
    (a.turn c w).Supplies i id ref := by
  obtain ⟨l, hl, r, hr, hrenewal⟩ := h
  exact ⟨l, by simp [hl], r, by simp [hr], hrenewal⟩

/-- What holds once the program has the right. -/
theorem steady_entitled (i id : Nat) (l : Login) (params : List Value) :
    Steady i id params (·.Entitled i id l) where
  onward _ _ h hab := h.onward hab
  sent _ h _ hout := absurd h.holder hout

/-- What holds while the program logs in. -/
theorem steady_stale (i id : Nat) (l : Login) (params : List Value) :
    Steady i id params (·.Stale i id l) where
  onward _ _ h hab := h.onward hab
  sent _ h _ hout := absurd h.holder hout

/-- What holds until the new login is stored. -/
theorem steady_answered (i id : Nat) (l : Login) (ref : String) (params : List Value) :
    Steady i id params (·.Answered i id l ref) where
  onward _ _ h hab := h.onward hab
  sent _ h _ hout := absurd h.holder hout

/-- What the answer to a login leads to. -/
def Annals.AfterLogin (i id : Nat) (l : Login) (r : Outcome Value) (a : Annals) : Prop :=
  match r.map (referenceOf "session.login_with_password -> ") with
  | .ok (.ok ref) => a.Answered i id l ref
  | _ => a.Stale i id l

/-- An answer to a login renews it, or leaves everything as it is. -/
theorem allows_answer {call : Call} {r : Outcome Value} (hstale : a.Stale i id l)
    (hr : Renewed i g₀ a) :
    (renewing i g₀ id).Allows a (.answer id r) (a.world.record (.answered id call r))
      (·.AfterLogin i id l r) := by
  have hA := steady_stale i id l []
  cases r with
  | error e => exact hA.allows_answer hstale hr rfl
  | ok v =>
    cases href : referenceOf "session.login_with_password -> " v with
    | error e =>
      simp only [Annals.AfterLogin, Except.map, href]
      exact hA.allows_answer hstale hr (by simp [Turn.renewal?, hstale.holder, href])
    | ok ref =>
      simp only [Annals.AfterLogin, Except.map, href]
      have hrenewal : Turn.renewal? i ⟨.answer id (.ok v), a.world⟩ =
          some ⟨id, a.world.shared.login i, ref⟩ := by
        simp [Turn.renewal?, hstale.holder, href]
      constructor
      · exact
          { renewed := hr.turn_renewal rfl (by simp [World.record, hstale.holder]) hrenewal rfl
              hstale.found hstale.login.symm (hstale.login ▸ hstale.behind) hstale.settled
            turn := ⟨_, _, rfl, rfl⟩
            holder := fun _ _ => Iff.rfl
            login := fun _ => rfl
            client := Nat.le_refl _
            sent := by simp [World.record] }
      · exact
          { found := by simp [hstale.found]
            login := hstale.login
            behind := hstale.behind
            holder := hstale.holder
            renewal := ⟨⟨id, a.world.shared.login i, ref⟩, by simp [hrenewal], rfl, hstale.login⟩ }

/-- The new login is stored. -/
theorem allows_store {new : Login} (h : a.Answered i id l ref) (hr : Renewed i g₀ a)
    (href : new.ref = some ref) (hnewer : l.generation < new.generation)
    (hclient : new.generation ≤ a.world.shared.client.generation) :
    (renewing i g₀ id).Allows a (.go id) (a.world.change (·.setLogin i new))
      fun a => a.Held i id ∧ a.Supplies i id ref := by
  obtain ⟨r, hmem, rfl, hreplaced⟩ := h.renewal
  have hlogin : (a.world.change (·.setLogin i new)).shared.login i = new := if_pos rfl
  have hnewer' : (a.world.shared.login i).generation < new.generation := h.login ▸ hnewer
  have hrenewals : (a.turn (.go id) (a.world.change (·.setLogin i new))).renewals i =
      a.renewals i := by simp [Turn.renewal?_go]
  constructor
  · exact
      { renewed := hr.turn_store rfl hmem (hreplaced.trans h.login.symm) (hlogin.symm ▸ href)
          (hlogin.symm ▸ hnewer') (hlogin.symm ▸ hclient) (Nat.le_refl _)
        turn := ⟨_, _, rfl, rfl⟩
        holder := fun _ _ => Iff.rfl
        login := fun hout => absurd h.holder hout
        client := Nat.le_refl _
        sent := fun _ _ _ hout => absurd h.holder hout }
  · constructor
    · refine ⟨h.holder, fun r hmem => ?_⟩
      rw [hrenewals] at hmem
      rw [Annals.world_turn, hlogin]
      exact Nat.lt_of_le_of_lt (hr.bounds r hmem).2.1 hnewer'
    · refine ⟨l, by simp [h.found], r, by simp [hmem], rfl, ?_⟩
      exact Nat.le_of_eq hreplaced.symm

variable {h : Session}

/-- A program that logs in with the right to do so has that right in the end, and if it has
succeeded, there is a reference for it. -/
theorem logIn_minds (hlogin : h.login = i) (c : Credentials) (hstale : a.Stale i id l) :
    (h.logIn c).Minds (renewing i g₀ id) id
      (fun r b => b.Held i id ∧ ∀ ref, r = .ok ref → b.Supplies i id ref) a := by
  subst hlogin
  have hcall : (callPool "session.login_with_password" (loginParams c) h.deadline).Minds
      (renewing h.login g₀ id) id (fun r b => b.AfterLogin h.login id l r) a :=
    (steady_stale _ _ _ _).callPool_minds (fun _ _ => Iff.rfl)
      (fun b call r hb hr => allows_answer hb hr) hstale
  refine Program.minds_bind.2 (hcall.imp fun r b hb => ?_)
  cases r with
  | error e => exact ⟨hb.toHeld, nofun⟩
  | ok v =>
    dsimp only
    rw [Annals.AfterLogin, Except.map] at hb
    cases href : referenceOf "session.login_with_password -> " v with
    | error e =>
      rw [href] at hb
      exact ⟨hb.toHeld, nofun⟩
    | ok ref =>
      rw [href] at hb
      have hA := steady_answered h.login id l ref []
      refine fun b₁ hab₁ => hA.allows_quiet hb hab₁ .refl rfl fun hb => ?_
      refine fun b₂ hab₂ => hA.allows_quiet hb hab₂ .refl rfl fun hb => ?_
      refine fun b₃ hab₃ => hA.allows_quiet hb hab₃ .refl rfl fun hb => ?_
      refine fun b₄ hab₄ => ?_
      refine (allows_store (hb.onward hab₄.toOnward) hab₄.renewed rfl hb.behind hab₄.client).imp ?_
      rintro ⟨hheld, hsupplies⟩
      refine ⟨hheld, ?_⟩
      rintro ref' ⟨⟩
      exact hsupplies

/-- The right to log in again is given back. -/
theorem Annals.Held.allows_release {rest : Annals → Prop} (h : a.Held i id)
    (hab : Undisturbed i g₀ id a b)
    (hrest : (b.turn (.go id) (b.world.free i)).world.holder i ≠ some id →
      rest (b.turn (.go id) (b.world.free i))) :
    (renewing i g₀ id).Allows b (.go id) (b.world.free i) rest := by
  have hb := h.onward hab.toOnward
  have hfree : (b.world.free i).holder i = none := if_pos rfl
  refine ⟨?_, hrest (by simp [hfree])⟩
  exact
    { renewed := hab.renewed.turn rfl (Nat.le_refl _) (fun _ => hb.settled) rfl
      turn := ⟨_, _, rfl, rfl⟩
      holder := fun j hj => by simp [hfree, hb.holder, hj.symm]
      login := fun _ => rfl
      client := Nat.le_refl _
      sent := fun _ _ _ hout => absurd hb.holder hout }

/-- The program `id` gets the right to log in again. -/
theorem allows_acquire {rest : Annals → Prop} (hr : Renewed i g₀ a)
    (hfree : a.world.holder i = none)
    (hrest : (a.turn (.go id) (a.world.grant i id)).Held i id →
      rest (a.turn (.go id) (a.world.grant i id))) :
    (renewing i g₀ id).Allows a (.go id) (a.world.grant i id) rest := by
  have hheld : (a.world.grant i id).holder i = some id := if_pos rfl
  constructor
  · exact
      { renewed := hr.turn rfl (Nat.le_refl _) (fun hnone => by simp [hheld] at hnone) rfl
        turn := ⟨_, _, rfl, rfl⟩
        holder := fun j hj => by simp [hheld, hfree, hj.symm]
        login := fun _ => rfl
        client := Nat.le_refl _
        sent := fun call hcall => absurd hcall.symm (List.cons_ne_self _ _) }
  · refine hrest ⟨hheld, ?_⟩
    simp only [Annals.renewals_turn, Turn.renewal?_go, Option.toList_none, List.nil_append]
    exact hr.settled hfree

/-- The end of logging in again: the right is given back. -/
theorem release_minds {r : Outcome String} (hheld : a.Held i id)
    (hsupplies : ∀ ref, r = .ok ref → a.Supplies i id ref) :
    (Program.release i (.done r)).Minds (renewing i g₀ id) id
      (fun r b => b.world.holder i ≠ some id ∧ ∀ ref, r = .ok ref → b.Supplies i id ref) a := by
  refine fun b hab => hheld.allows_release hab fun hout => ⟨hout, fun ref hr => ?_⟩
  exact ((hsupplies ref hr).onward hab.toOnward).turn

/-- A login that is not the one that the program `id` has found is a later one. -/
theorem Renewed.supplies (hr : Renewed i g₀ a) (hfound : a.found i id = some l)
    (hother : (a.world.shared.login i).generation ≠ l.generation)
    (href : (a.world.shared.login i).ref = some ref) : a.Supplies i id ref := by
  have hlt := Nat.lt_of_le_of_ne (hr.found_le id l hfound) hother.symm
  obtain ⟨r, hmem, hsame, hle⟩ := hr.source id l hfound hlt
  exact ⟨l, hfound, r, hmem, Option.some.inj (hsame.symm.trans href), hle⟩

/-- A program that logs in again, or takes up what another has got, has a reference for its call if
it succeeds. -/
theorem logInAgain_minds (hlogin : h.login = i) (hfound : a.found i id = some l)
    (hbehind : l.generation < a.world.shared.client.generation) :
    (h.logInAgain l.generation).Minds (renewing i g₀ id) id
      (fun r b => b.world.holder i ≠ some id ∧ ∀ ref, r = .ok ref → b.Supplies i id ref) a := by
  subst hlogin
  have hA := steady_entitled h.login id l []
  intro b hab hfree
  refine allows_acquire hab.renewed hfree fun hheld => ?_
  have hentitled : (b.turn (.go id) (b.world.grant h.login id)).Entitled h.login id l :=
    { toHeld := hheld
      found := by simp [hab.found l hfound]
      behind := Nat.lt_of_lt_of_le hbehind hab.client }
  refine fun b₁ hab₁ => hA.allows_quiet hentitled hab₁ .refl rfl fun hentitled₁ => ?_
  dsimp only
  by_cases hsame : (b₁.world.shared.login h.login).generation = l.generation
  · simp only [hsame, ne_eq, not_true_eq_false, if_false]
    cases (b₁.world.shared.login h.login).credentials with
    | none => exact release_minds hentitled₁.toHeld nofun
    | some c =>
      have hS := steady_stale h.login id l []
      have hstale : (b₁.turn (.go id) b₁.world).Stale h.login id l := ⟨hentitled₁, hsame⟩
      refine fun b₂ hab₂ => hS.allows_quiet hstale hab₂ .refl rfl fun hstale => ?_
      refine Program.minds_bind.2 ((logIn_minds rfl c hstale).imp fun r b hb => ?_)
      exact release_minds hb.1 hb.2
  · have hfound₁ := hab₁.found l hentitled.found
    obtain ⟨ref, href⟩ := Option.isSome_iff_exists.1 hab₁.renewed.ref
    simp only [ne_eq, hsame, not_false_eq_true, if_true, href]
    refine release_minds hentitled₁.toHeld ?_
    rintro ref' ⟨⟩
    exact (hab₁.renewed.supplies hfound₁ hsame href).turn

end Held

/-! ## Calls -/

section Calls

variable {α : Type} {i g₀ id : Nat} {a b : Annals} {l : Login} {ref : String} {h : Session}
  {method : String} {args : List Value} {f : Outcome Value → α}

/-- What holds while a call is sent for the first time. -/
theorem steady_asked (i id : Nat) (l : Login) (params : List Value) :
    Steady i id params fun a => a.found i id = some l ∧ a.Outside i id where
  onward _ _ h hab := ⟨hab.found l h.1, h.2.onward hab⟩
  sent _ h hhad _ := absurd hhad h.2.never

/-- What holds while a call is sent again. -/
theorem steady_retried (i id : Nat) (ref : String) (args : List Value) :
    Steady i id (.string ref :: args)
      fun a => a.world.holder i ≠ some id ∧ a.Supplies i id ref where
  onward _ _ h hab := ⟨fun hb => h.1 (hab.holder.2 hb), h.2.onward hab⟩
  sent _ h _ _ := ⟨ref, rfl, h.2⟩

/-- A call that logs in again is sent with the reference that it has got. -/
theorem retry_minds (hlogin : h.login = i) (hfound : a.found i id = some l)
    (hbehind : l.generation < a.world.shared.client.generation) :
    ((h.retry l.generation method args).bind fun r => .done (f r)).Minds (renewing i g₀ id) id
      (fun _ _ => True) a := by
  refine Program.minds_bind.2 (Program.minds_bind.2 ?_)
  refine (logInAgain_minds hlogin hfound hbehind).imp fun r b hb => ?_
  cases r with
  | error e => trivial
  | ok ref =>
    have hA := steady_retried i id ref args
    have hcall : (callPool method (.string ref :: args) h.deadline).Minds (renewing i g₀ id) id
        (fun _ b => b.world.holder i ≠ some id ∧ b.Supplies i id ref) b :=
      hA.callPool_minds (fun _ _ => Iff.rfl)
        (fun b call r hb hr => hA.allows_answer hb hr (Turn.renewal?_of_ne hb.1))
        ⟨hb.1, hb.2 ref rfl⟩
    exact hcall.imp fun _ _ _ => trivial

/-- Only if the active endpoint has moved, a call logs in again. -/
theorem generation_ne_of_worthLoggingIn {g : Nat} {s : Shared} {r : Outcome Value}
    (hworth : h.worthLoggingIn g s r) : s.client.generation ≠ g := by
  cases r with
  | ok v => cases hworth
  | error e =>
    simp only [worthLoggingIn, Bool.and_eq_true, bne_iff_ne] at hworth
    exact hworth.1.2

/-- A call that has been answered ends, or logs in again. -/
theorem conclude_minds (hlogin : h.login = i) (hfound : a.found i id = some l)
    (hout : a.Outside i id) (r : Outcome Value) :
    (h.conclude l.generation method args f r).Minds (renewing i g₀ id) id (fun _ _ => True) a := by
  intro b hab
  refine hout.allows (c := .go id) hab .refl fun _ => ?_
  have hfound' : (b.turn (.go id) b.world).found i id = some l := by
    simp [hab.found l hfound]
  dsimp only
  split
  · rename_i hworth
    have hle := Nat.le_trans (hab.renewed.found_le id l (hab.found l hfound)) hab.renewed.le_client
    exact retry_minds hlogin hfound'
      (Nat.lt_of_le_of_ne hle (generation_ne_of_worthLoggingIn hworth).symm)
  · trivial

/-- A call that has not begun keeps its pact. -/
theorem call_minds (hlogin : h.login = i) (hfound : a.found i id = none) (hout : a.Outside i id) :
    ((h.call method args).bind fun r => .done (f r)).Minds (renewing i g₀ id) id
      (fun _ _ => True) a := by
  subst hlogin
  rw [Session.call_bind]
  intro b hab
  refine hout.allows (c := .go id) hab .refl fun hout => ?_
  have hfound' : (b.turn (.go id) b.world).found h.login id =
      some (b.world.shared.login h.login) := by
    simp [hab.unfound hfound, Choice.id]
  dsimp only
  cases (b.world.shared.login h.login).ref with
  | none => trivial
  | some ref =>
    generalize b.world.shared.login h.login = l at hfound'
    generalize b.turn (.go id) b.world = b at hout hfound'
    have hA := steady_asked h.login id l (.string ref :: args)
    have hcall : (callPool method (.string ref :: args) h.deadline).Minds
        (renewing h.login g₀ id) id (fun _ b => b.found h.login id = some l ∧ b.Outside h.login id)
        b :=
      hA.callPool_minds (fun _ _ => Iff.rfl)
        (fun b call r hb hr => hA.allows_answer hb hr (Turn.renewal?_of_ne hb.2.holder))
        ⟨hfound', hout⟩
    exact Program.minds_bind.2 (hcall.imp fun r b hb => conclude_minds rfl hb.1 hb.2 r)

end Calls

/-! ## Any number of calls -/

section Crowd

variable {α : Type} {i : Nat} {s s' : Crowd α} {cs : List Choice}

/-- A session that is logged in with the login `i`, and programs that have not begun: calls on
handles of that login, and programs that leave it alone. -/
structure CallsOf (i : Nat) (s : Crowd α) : Prop where
  threads : ∀ id, (s.threads id).Within (.sparing i) ∨
    ∃ (h : Session) (method : String) (args : List Value) (f : Outcome Value → α), h.login = i ∧
      s.threads id = .ready ((h.call method args).bind fun r => .done (f r))
  fresh : s.annals.turns = []
  free : s.annals.world.holder i = none
  ref : (s.annals.world.shared.login i).ref.isSome
  generation :
    (s.annals.world.shared.login i).generation ≤ s.annals.world.shared.client.generation

namespace CallsOf

theorem renewals_eq_nil (h : CallsOf i s) : s.annals.renewals i = [] := by
  simp [Annals.renewals, h.fresh]

theorem found_eq_none (h : CallsOf i s) (id : Nat) : s.annals.found i id = none := by
  simp [Annals.found, h.fresh]

theorem outside (h : CallsOf i s) (id : Nat) : s.annals.Outside i id where
  holder := by simp [h.free]
  never := by simp [Annals.HasHad, h.fresh]

theorem renewed (h : CallsOf i s) :
    Renewed i (s.annals.world.shared.login i).generation s.annals where
  ref := h.ref
  le_client := h.generation
  start := Nat.le_refl _
  found_le id l hl := by simp [h.found_eq_none] at hl
  sorted := by simp [h.renewals_eq_nil]
  bounds := by simp [h.renewals_eq_nil]
  own := by simp [h.renewals_eq_nil]
  settled := by simp [h.renewals_eq_nil]
  source id l hl := by simp [h.found_eq_none] at hl

theorem minds (h : CallsOf i s) :
    s.Minds (renewing i (s.annals.world.shared.login i).generation) := by
  intro id
  obtain hwithin | ⟨session, method, args, f, hlogin, hthread⟩ := h.threads id
  · exact (h.outside id).minds hwithin
  · rw [hthread]
    exact call_minds hlogin (h.found_eq_none id) (h.outside id)

end CallsOf

/-- Strictly descending numbers between two bounds are no more than fit in between. -/
theorem add_length_le_of_pairwise {m n : Nat} {xs : List Nat} (hmn : m ≤ n)
    (hxs : xs.Pairwise fun x y => y < x) (hbounds : ∀ x ∈ xs, m ≤ x ∧ x < n) :
    m + xs.length ≤ n := by
  induction xs generalizing n with
  | nil => exact hmn
  | cons x xs ih =>
    obtain ⟨hx, hrest⟩ := List.pairwise_cons.1 hxs
    obtain ⟨⟨hmx, hxn⟩, hbounds⟩ := List.forall_mem_cons.1 hbounds
    have hle := ih hmx hrest fun y hy => ⟨(hbounds y hy).1, hx y hy⟩
    rw [List.length_cons]
    omega

/-- Every renewal takes a move of the active endpoint. -/
theorem Renewed.add_length_le {g₀ : Nat} {a : Annals} (h : Renewed i g₀ a) :
    g₀ + (a.renewals i).length ≤ a.world.shared.client.generation := by
  have hlength := add_length_le_of_pairwise (Nat.le_trans h.start h.le_client)
    (List.pairwise_map.2 h.sorted) (List.forall_mem_map.2 fun r hr =>
      ⟨(h.bounds r hr).1, (h.bounds r hr).2.2⟩)
  simpa using hlength

/-- What a program has found is renewed at most once by those who have found it. -/
theorem Renewed.nodup_found {g₀ : Nat} {a : Annals} (h : Renewed i g₀ a) :
    ((a.renewals i).map fun r =>
      (a.found i r.id).map fun l => (l.ref, l.generation)).Nodup := by
  refine List.pairwise_map.2 (h.sorted.imp_of_mem fun {r r'} hr hr' hlt hsame => ?_)
  obtain ⟨l, hl, hgeneration⟩ := h.own r hr
  obtain ⟨l', hl', hgeneration'⟩ := h.own r' hr'
  simp only [hl, hl', Option.map_some, Option.some.injEq, Prod.mk.injEq] at hsame
  omega

/-- Any number of calls run on handles of one login, among programs that leave it alone, and all of
them may be interrupted anywhere. At any time there have been no more renewals of the login than
the generation of the client is ahead of the generation that the login had, and no two renewals by
calls that have found the same reference and generation. A call that has had the right to log in
again, and has given it back, is sent with a reference from a renewal of the login that the call has
found, or of a later one. -/
theorem renewals_of_calls (h : CallsOf i s) (hrun : s.run cs = some s') :
    (s.annals.world.shared.login i).generation + (s'.annals.renewals i).length ≤
        s'.annals.world.shared.client.generation ∧
      ((s'.annals.renewals i).map fun r =>
        (s'.annals.found i r.id).map fun l => (l.ref, l.generation)).Nodup ∧
      ∀ c s'' call, s'.step c = some s'' →
        s''.annals.world.history = .sent c.id call :: s'.annals.world.history →
        s'.annals.HasHad i c.id → s'.annals.world.holder i ≠ some c.id →
        ∃ ref, call.params.head? = some (.string ref) ∧ s'.annals.Supplies i c.id ref := by
  have hharmony := harmony_renewing i (s.annals.world.shared.login i).generation
  obtain ⟨hrenewed, hminds⟩ := Crowd.run_minds hharmony h.renewed h.minds hrun
  refine ⟨hrenewed.add_length_le, hrenewed.nodup_found, fun c s'' call hstep => ?_⟩
  exact (Crowd.step_minds hharmony hrenewed hminds hstep).1.sent call

end Crowd

/-- A session that is logged in at `a`, two calls of it, and another call to the pool. -/
def twoCalls : Crowd (Outcome Value) where
  annals :=
    { world :=
        { shared := (Shared.initial (.ofHost "a" true) none).setLogin 0
            ⟨some "old", 0, some (.ofUser "root" "secret" none), none, none⟩
          holder := fun _ => none
          history := [] }
      turns := [] }
  threads
    | 0 => .ready (((Session.mk 0 none).call "VM.get_all" []).bind .done)
    | 1 => .ready (((Session.mk 0 none).call "SR.get_all" []).bind .done)
    | 2 => .ready (callPool "VDI.get_all" [] none)
    | _ => .ready (.done (.ok .nil))

/-- All calls are sent to `a`, the other call moves the active endpoint to `b`, and `a` does not
know the session. The first call logs in again and stores the login, and the second takes up what
it has got. -/
def takenUp : List Choice :=
  let turns (n id : Nat) : List Choice := List.replicate n (.go id)
  turns 3 0 ++ turns 3 1 ++ turns 2 2 ++ .answer 2 (refusal "b") :: turns 3 2 ++
    .answer 0 (.error (.server invalid)) :: turns 6 0 ++
    .answer 1 (.error (.server invalid)) :: turns 1 1 ++
    .answer 0 (.ok (.string "new")) :: turns 5 0 ++ turns 4 1

/-- The second call is sent with the reference that the first has got. -/
theorem renewals_of_calls_taken_up :
    ∃ s s' call, twoCalls.run takenUp = some s ∧ (s.annals.renewals 0).map Renewal.id = [0] ∧
      s.annals.world.shared.client.generation = 1 ∧ s.step (.go 1) = some s' ∧
      s'.annals.world.history = .sent 1 call :: s.annals.world.history ∧
      call.params.head? = some (.string "new") := by
  have hcalls : CallsOf 0 twoCalls :=
    { threads := by
        rintro (_ | _ | _ | id)
        · exact .inr ⟨⟨0, none⟩, _, _, id, rfl, rfl⟩
        · exact .inr ⟨⟨0, none⟩, _, _, id, rfl, rfl⟩
        · exact .inl (Program.within_callPool (Footprint.admits_sparing Nat.one_ne_zero) _ _ _)
        · exact .inl trivial
      fresh := rfl
      free := rfl
      ref := rfl
      generation := Nat.le_refl _ }
  obtain ⟨s, s', call, hrun, hrenewals, hgeneration, hstep, hcall, hhad, hfree⟩ :
      ∃ s s' call, twoCalls.run takenUp = some s ∧
        s.annals.renewals 0 = [⟨0, twoCalls.annals.world.shared.login 0, "new"⟩] ∧
        s.annals.world.shared.client.generation = 1 ∧ s.step (.go 1) = some s' ∧
        s'.annals.world.history = .sent 1 call :: s.annals.world.history ∧
        s.annals.turns.any (fun t => t.before.holder 0 = some 1) ∧
        s.annals.world.holder 0 = none :=
    ⟨_, _, _, rfl, rfl, rfl, rfl, rfl, rfl, rfl⟩
  have hhad : s.annals.HasHad 0 1 := by simpa [Annals.HasHad] using hhad
  obtain ⟨-, -, hsent⟩ := renewals_of_calls hcalls hrun
  obtain ⟨ref, hparams, -, -, r, hr, rfl, -⟩ :=
    hsent (.go 1) s' call hstep hcall hhad (by simp [hfree])
  rw [hrenewals, List.mem_singleton] at hr
  rw [hr] at hparams
  exact ⟨s, s', call, hrun, by rw [hrenewals]; rfl, hgeneration, hstep, hcall, hparams⟩

end PoolClient
