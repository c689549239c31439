import Mathlib.Tactic.ByContra
import PoolClient.Proofs.LoginTurn
/-!
# Logging out among calls

Any number of calls and one logout run on handles of one login. When the logout returns, the
session holds neither a reference nor credentials. It stays so unless some call had the right to
log in again at that moment: such a call has taken the credentials along, and stores what its
login is answered with (`loggedOut_after_logOut_iff`).

`OrderlyTurn` says what a turn may do to a login. Every call and logout guarantees it of each of
its turns (`call_obeys`, `finish_obeys`), since it guarantees `LoginTurn`.
-/

namespace PoolClient

open Session

/-- The session holds neither a reference nor credentials. -/
def World.LoggedOut (w : World) (i : Nat) : Prop :=
  (w.shared.login i).ref = none ∧ (w.shared.login i).credentials = none

/-- A program of which only the end counts. -/
def Program.void {α : Type} (p : Program (Outcome α)) : Program (Outcome Unit) :=
  p.bind fun r => .done (r.map fun _ => ())

theorem Program.Composes.void {C : ∀ {α : Type}, Program α → Prop} (hC : Composes C) {α : Type}
    {p : Program (Outcome α)} (hp : C p) : C p.void :=
  hC.bind hp fun _ => hC.done _

/-- What a turn of the program `id` may do to the login `i`: it leaves the right to log in again
with others; without that right it leaves a session logged out; and with it, it stores the
reference it is answered with. -/
structure OrderlyTurn (i id : Nat) (w w' : World) : Prop where
  others : ∀ j, j ≠ id → (w.holder i = some j ↔ w'.holder i = some j)
  quiet : w.LoggedOut i → w.holder i ≠ some id → w'.LoggedOut i ∧ w'.holder i ≠ some id
  stores : w.holder i = some id → ∀ call ref,
    .answered id call (.ok (.string ref)) :: w.history <:+ w'.history →
      (w'.shared.login i).ref = some ref

/-- Others do not touch a program's right to log in again, and every turn is orderly. Who has
the right waits for an answer and for nothing else. -/
def orderly (i id : Nat) : Contract where
  rely w w' := w.holder i = some id ↔ w'.holder i = some id
  guarantee w wait w' :=
    OrderlyTurn i id w w' ∧ (w'.holder i = some id → ∃ call, wait = .answer call)

/-! ## Orderly turns -/

variable {i id : Nat} {w w' : World} {method : String}

/-- A turn of a call or a logout that waits afterwards is orderly. -/
theorem orderly_of_keepingLogin {wait : Wait} (h : (keepingLogin i id).guarantee w wait w') :
    (orderly i id).guarantee w wait w' := by
  obtain ⟨hturn, hwait⟩ := h
  refine ⟨⟨hturn.others, fun hout hid => ⟨?_, fun hid' => ?_⟩, fun hid call ref hsuffix => ?_⟩,
    fun hid' => ?_⟩
  · rw [World.LoggedOut, hturn.outside hid]
    exact hout
  · obtain ⟨_, _, _, _, hc, _⟩ := hwait hid'
    rw [hout.2] at hc
    cases hc hid
  · exact (hturn.inside hid call _ hsuffix).1
  · obtain ⟨call, _, hcall, _⟩ := hwait hid'
    exact ⟨call, hcall⟩

/-- The last turn of a call is orderly. -/
theorem OrderlyTurn.of_loginTurn (h : LoginTurn i id w w') (hid' : w'.holder i ≠ some id) :
    OrderlyTurn i id w w' := by
  refine ⟨h.others, fun hout hid => ⟨?_, hid'⟩, fun hid call ref hsuffix => ?_⟩
  · rw [World.LoggedOut, h.outside hid]
    exact hout
  · exact (h.inside hid call _ hsuffix).1

/-! ## Calls and logouts -/

/-- The last turn of a call or a logout gives no right to log in again. A logout `t` leaves the
session logged out, unless it was over before it sent anything. -/
def orderlyEnd (i t id : Nat) {α : Type} (_ : α) (w w' : World) : Prop :=
  OrderlyTurn i id w w' ∧ w'.holder i ≠ some id ∧
    (id = t → w'.LoggedOut i ∨ w'.history = w.history)

theorem call_obeys {t : Nat} {h : Session} {args : List Value} (hlogin : h.login = i)
    (hid : w.holder i ≠ some id) (ht : id ≠ t) :
    (h.call method args).Obeys (orderly i id) id (orderlyEnd i t id) w w :=
  (call_keeps_login hlogin hid).mono (fun _ _ h => h) (fun _ _ _ => orderly_of_keepingLogin)
    fun _ _ _ h => ⟨.of_loginTurn h.turn h.holder, h.holder, fun h => absurd h ht⟩

theorem finish_obeys {t : Nat} {h : Session} (hlogin : h.login = i)
    (hid : w.holder i ≠ some id) :
    (h.finish method).Obeys (orderly i id) id (orderlyEnd i t id) w w := by
  subst hlogin
  simp only [Session.finish, Program.Obeys]
  split
  · exact ⟨.of_loginTurn .refl hid, hid, fun _ => .inr rfl⟩
  · simp only [Program.obeys_bind]
    refine (callPool_keeps_outside .refl hid fun a w₁ w₂ hturn hid₁ hid₂ => ?_).mono
      (fun _ _ h => h) (fun _ _ _ => orderly_of_keepingLogin) fun _ _ _ h => h
    have hcleared : ∀ b : Outcome Unit, orderlyEnd h.login t id b w₁
        (w₂.change fun s => s.setLogin h.login
          { w₂.shared.login h.login with ref := none, credentials := none }) := by
      refine fun b => ⟨⟨hturn.others, fun _ _ => ⟨?_, hid₂⟩, fun h => absurd h hid₁⟩, hid₂,
        fun _ => .inl ?_⟩ <;>
        simp [World.LoggedOut, World.change, Shared.setLogin]
    cases a with
    | error e => exact hcleared (.error e)
    | ok v =>
      simp only [bind, pure, Program.setLogin, Program.notice, Program.bind, Program.Obeys]
      split <;> exact hcleared _

/-! ## The whole run -/

/-- Calls on the login `i`, any number of them, and one logout `t`. None has begun, and nobody
has the right to log in again. -/
structure CallsAndLogOut (i t : Nat) (s : System (Outcome Unit)) : Prop where
  logOut : ∃ h : Session, h.login = i ∧
    (s.stands t = .idle h.logOut ∨ s.stands t = .idle h.logOutLocally)
  calls : ∀ id, id ≠ t → ∃ (h : Session) (method : String) (args : List Value), h.login = i ∧
    s.stands id = .idle (h.call method args).void
  free : s.world.holder i = none

/-- In its turn `c`, the program `t` gets the answer it waits for and is over. -/
def System.Ends {α : Type} (s : System α) (t : Nat) (c : Choice) (s' : System α) : Prop :=
  (∃ call next, s.stands t = .awaiting call next) ∧ s.step c = some s' ∧
    ∃ a, s'.stands t = .ended a

theorem compatible_orderly (i t : Nat) :
    Compatible (fun id => orderly i id) (fun id (a : Outcome Unit) => orderlyEnd i t id a) where
  refl _ _ := Iff.rfl
  trans _ _ _ _ h h' := h.trans h'
  turn _ other hne _ _ _ h := h.1.others other hne
  last _ other hne _ _ _ h := h.1.others other hne

variable {t : Nat} {s s' s₁ s₂ : System (Outcome Unit)} {c : Choice} {cs : List Choice}

theorem CallsAndLogOut.obeys (hs : CallsAndLogOut i t s) :
    s.Obeys (fun id => orderly i id) (fun id => orderlyEnd i t id) := by
  intro id
  have hid : ∀ w, (orderly i id).rely s.world w → w.holder i ≠ some id := by
    intro w hrely hw
    have := hrely.2 hw
    rw [hs.free] at this
    cases this
  by_cases ht : id = t
  · subst ht
    obtain ⟨h, hlogin, hstand | hstand⟩ := hs.logOut <;> rw [hstand] <;>
      exact fun w hw => finish_obeys hlogin (hid w hw)
  · obtain ⟨h, method, args, hlogin, hstand⟩ := hs.calls id ht
    rw [hstand]
    exact fun w hw => Program.obeys_bind.2 (call_obeys hlogin (hid w hw) ht)

/-- All programs keep their contracts, and who has the right to log in again waits for an
answer. -/
def OrderlySystem (i t : Nat) (s : System (Outcome Unit)) : Prop :=
  s.Obeys (fun id => orderly i id) (fun id => orderlyEnd i t id) ∧
    ∀ id, s.world.holder i = some id → ∃ call next, s.stands id = .awaiting call next

/-- What a turn does in an orderly system. -/
theorem OrderlySystem.turn (h : OrderlySystem i t s) (hs : s.step c = some s') :
    OrderlyTurn i c.id s.world s'.world := by
  have hmeets := (System.step_obeys (compatible_orderly i t) h.1 hs).1
  exact hmeets.elim (fun _ => And.left) fun _ => And.left

theorem OrderlySystem.step (h : OrderlySystem i t s) (hs : s.step c = some s') :
    OrderlySystem i t s' := by
  obtain ⟨hmeets, hobeys⟩ := System.step_obeys (compatible_orderly i t) h.1 hs
  refine ⟨hobeys, fun id hid => ?_⟩
  by_cases hc : id = c.id
  · subst hc
    cases hstand : s'.stands c.id with
    | awaiting call next => exact ⟨call, next, rfl⟩
    | idle p => exact absurd hmeets (by simp [hstand, Stand.Meets])
    | pausing time next =>
      rw [hstand] at hmeets
      obtain ⟨call, heq⟩ := hmeets.2 hid
      cases heq
    | queueing j next =>
      rw [hstand] at hmeets
      obtain ⟨call, heq⟩ := hmeets.2 hid
      cases heq
    | ended a =>
      rw [hstand] at hmeets
      exact absurd hid hmeets.2.1
  · rw [System.stands_of_step hs hc]
    exact h.2 id (((h.turn hs).others id hc).2 hid)

theorem CallsAndLogOut.orderlySystem (hs : CallsAndLogOut i t s) (hr : s.run cs = some s') :
    OrderlySystem i t s' := by
  refine System.run_invariant (fun _ _ _ h => h.step) hr ⟨hs.obeys, fun id hid => ?_⟩
  rw [hs.free] at hid
  cases hid

/-- A logout that gets its answer leaves the session logged out. -/
theorem OrderlySystem.loggedOut_of_ends (h : OrderlySystem i t s) (hend : s.Ends t c s') :
    s'.world.LoggedOut i := by
  obtain ⟨⟨call, next, hstand⟩, hs, a, hover⟩ := hend
  obtain rfl : t = c.id := by
    by_contra hne
    rw [System.stands_of_step hs hne, hstand] at hover
    cases hover
  have hmeets := (System.step_obeys (compatible_orderly i c.id) h.1 hs).1
  rw [hover] at hmeets
  refine (hmeets.2.2 rfl).resolve_right fun hsame => ?_
  obtain ⟨r, hsuffix⟩ := System.answered_of_step hstand hs
  rw [hsame] at hsuffix
  exact not_cons_suffix_self hsuffix

/-- A session that is logged out stays so while the program that has the right to log in again
gets no turn. -/
theorem OrderlySystem.loggedOut_of_run (h : OrderlySystem i t s) (hr : s.run cs = some s')
    (hcs : ∀ c ∈ cs, s.world.holder i ≠ some c.id) (hout : s.world.LoggedOut i) :
    s'.world.LoggedOut i := by
  have hquiet : ∀ id, s.world.holder i ≠ some id → ∀ w w', OrderlyTurn i id w w' →
      (w.LoggedOut i ∧ w.holder i = s.world.holder i) →
      w'.LoggedOut i ∧ w'.holder i = s.world.holder i := by
    intro id hid w w' hturn ⟨hw, hholder⟩
    obtain ⟨hw', hid'⟩ := hturn.quiet hw (hholder ▸ hid)
    refine ⟨hw', ?_⟩
    rw [← hholder] at hid ⊢
    ext j
    by_cases hj : j = id
    · subst hj
      exact ⟨fun h => absurd h hid', fun h => absurd h hid⟩
    · exact (hturn.others j hj).symm
  exact (System.run_keeps (P := fun w => w.LoggedOut i ∧ w.holder i = s.world.holder i)
    (compatible_orderly i t) (fun id hid w _ w' hg => hquiet id hid w w' hg.1)
    (fun id hid _ w w' hg => hquiet id hid w w' hg.1) h.1 hr hcs ⟨hout, rfl⟩).1

/-- A program that has the right to log in again can be answered with a reference, and stores
it. -/
theorem OrderlySystem.stores {id : Nat} (h : OrderlySystem i t s)
    (hid : s.world.holder i = some id) (ref : String) :
    ∃ s', s.run [.answer id (.ok (.string ref))] = some s' ∧
      (s'.world.shared.login i).ref = some ref := by
  obtain ⟨call, next, hstand⟩ := h.2 id hid
  obtain ⟨s', hs, hsuffix⟩ := System.step_answer hstand (.ok (.string ref))
  refine ⟨s', by simpa [System.run] using hs, ?_⟩
  exact (h.turn hs).stores hid call ref hsuffix

/-- When a logout that had found a session returns, the session is logged out. It stays so for as
long as the program that has the right to log in again gets no turn; and it stays so in every
run if and only if no program has that right. -/
theorem loggedOut_after_logOut_iff {s₀ : System (Outcome Unit)} (hs₀ : CallsAndLogOut i t s₀)
    (hrun : s₀.run cs = some s) (hend : s.Ends t c s₁) :
    s₁.world.LoggedOut i ∧
      (∀ cs s₂, s₁.run cs = some s₂ → (∀ c ∈ cs, s₁.world.holder i ≠ some c.id) →
        s₂.world.LoggedOut i) ∧
      ((∀ cs s₂, s₁.run cs = some s₂ → s₂.world.LoggedOut i) ↔
        s₁.world.holder i = none) := by
  have h := hs₀.orderlySystem hrun
  have hout := h.loggedOut_of_ends hend
  have h₁ := h.step hend.2.1
  refine ⟨hout, fun cs s₂ hr hcs => h₁.loggedOut_of_run hr hcs hout, fun hstays => ?_,
    fun hfree cs s₂ hr => h₁.loggedOut_of_run hr (by simp [hfree]) hout⟩
  by_contra hsome
  obtain ⟨id, hid⟩ := Option.ne_none_iff_exists'.1 hsome
  obtain ⟨s₂, hr, href⟩ := h₁.stores hid ""
  rw [(hstays _ s₂ hr).1] at href
  cases href

/-- A session that had logged in to the host `a`, with a logout as program 1 and calls as all
others. -/
def movedPool : System (Outcome Unit) where
  world :=
    { shared := (Shared.initial (.ofHost "a" true) none).setLogin 0
        { Login.fresh with ref := some "old", credentials := some ⟨"root", "pw", "1.0", "me"⟩ }
      holder := fun _ => none
      history := [] }
  stands id :=
    if id = 1 then .idle (logOut ⟨0, none⟩)
    else .idle (Session.call ⟨0, none⟩ "VM.get_all" []).void

/-- A logout that is answered while a call logs in again, because the master has moved to `b`, is
undone by the answer to that call's login. -/
theorem not_loggedOut_after_logOut :
    ∃ s s₁, movedPool.run [.go 0, .answer 0 (.error (.server (.new Api.hostIsSlave ["b"]))),
        .answer 0 (.error (.server (.new Api.sessionInvalid ["old"]))), .go 0, .go 1] = some s ∧
      s.Ends 1 (.answer 1 (.ok (.string ""))) s₁ ∧ s₁.world.LoggedOut 0 ∧
      ¬ ∀ cs s₂, s₁.run cs = some s₂ → s₂.world.LoggedOut 0 := by
  have hstart : CallsAndLogOut 0 1 movedPool :=
    ⟨⟨⟨0, none⟩, rfl, .inl rfl⟩, fun id hid => ⟨⟨0, none⟩, "VM.get_all", [], rfl, if_neg hid⟩, rfl⟩
  have hrun : ∃ s s₁, movedPool.run
        [.go 0, .answer 0 (.error (.server (.new Api.hostIsSlave ["b"]))),
        .answer 0 (.error (.server (.new Api.sessionInvalid ["old"]))), .go 0, .go 1] = some s ∧
      s.Ends 1 (.answer 1 (.ok (.string ""))) s₁ ∧ s₁.world.holder 0 = some 0 :=
    ⟨_, _, rfl, ⟨⟨_, _, rfl⟩, rfl, ⟨_, rfl⟩⟩, rfl⟩
  obtain ⟨s, s₁, hs, hend, hholder⟩ := hrun
  obtain ⟨hout, -, hiff⟩ := loggedOut_after_logOut_iff hstart hs hend
  refine ⟨s, s₁, hs, hend, hout, fun hstays => ?_⟩
  rw [hiff.1 hstays] at hholder
  cases hholder

end PoolClient
