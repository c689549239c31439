import PoolClient.Proofs.Redirection
/-!
# What the turns of a call do to its login

`LoginTurn` says all that one turn of a call does to the login of its session. Without the right
to log in again, it leaves the login alone. With that right it is answered, and the login becomes
what the answer says: unchanged if the answer gives no reference, and otherwise of that reference
and of the credentials that the login was sent with.

A program that has the right waits for the answer to a login and for nothing else. The login
carries the credentials that the program has found when it got the right (`LoginWait`). Every call
of a session keeps to this contract (`call_keeps_login`).
-/

namespace PoolClient

open Session

/-- The reference that the answer to a login gives. -/
def loginAnswer? : Outcome Value → Option String
  | .ok v => (referenceOf "session.login_with_password -> " v).toOption
  | .error _ => none

/-- What a turn of the program `id` may do to the login `i`. -/
structure LoginTurn (i id : Nat) (w w' : World) : Prop where
  others : ∀ j, j ≠ id → (w.holder i = some j ↔ w'.holder i = some j)
  outside : w.holder i ≠ some id → w'.shared.login i = w.shared.login i
  inside : w.holder i = some id → ∀ call r, .answered id call r :: w.history <:+ w'.history →
    match loginAnswer? r with
    | none => w'.shared.login i = w.shared.login i
    | some ref => (w'.shared.login i).ref = some ref ∧
        ∀ c, call.params = loginParams c → (w'.shared.login i).credentials = some c

/-- What the program `id` waits for once it has the right to log in again on the login `i`. -/
def LoginWait (i id : Nat) (w : World) (wait : Wait) (w' : World) : Prop :=
  w'.holder i = some id → ∃ call c, wait = .answer call ∧ call.params = loginParams c ∧
    (w.holder i ≠ some id → (w.shared.login i).credentials = some c) ∧
    (w.holder i = some id → ∀ first r, .answered id first r :: w.history <:+ w'.history →
      first.params = loginParams c)

/-- The contract of a call on the login `i`. Others do not touch its right to log in again. -/
def keepingLogin (i id : Nat) : Contract where
  rely w w' := w.holder i = some id ↔ w'.holder i = some id
  guarantee w wait w' := LoginTurn i id w w' ∧ LoginWait i id w wait w'

/-! ## Turns -/

variable {i id : Nat} {w₀ w w' : World} {call : Call} {c : Credentials}

theorem not_cons_suffix_self {α : Type} {a : α} {l : List α} : ¬ a :: l <:+ l := by
  intro h
  have := h.length_le
  rw [List.length_cons] at this
  omega

theorem eq_of_cons_suffix_cons {α : Type} {a b : α} {l : List α} (h : a :: l <:+ b :: l) :
    a = b := by
  rcases List.suffix_cons_iff.1 h with heq | hsuffix
  · exact (List.cons.inj heq).1
  · exact absurd hsuffix not_cons_suffix_self

theorem loginParams_inj {c c' : Credentials} (h : loginParams c = loginParams c') : c = c' := by
  cases c
  cases c'
  simpa [loginParams] using h

namespace LoginTurn

/-- A turn that has just begun. -/
theorem refl : LoginTurn i id w w where
  others _ _ := Iff.rfl
  outside _ := rfl
  inside _ _ _ h := absurd h not_cons_suffix_self

/-- A turn that has begun with an answer, if there is nothing in it to store. -/
theorem answered {r : Outcome Value} (h : w.holder i = some id → loginAnswer? r = none) :
    LoginTurn i id w (w.record (.answered id call r)) where
  others _ _ := Iff.rfl
  outside _ := rfl
  inside hid call' r' hsuffix := by
    cases eq_of_cons_suffix_cons hsuffix
    rw [h hid]
    rfl

theorem sent (h : LoginTurn i id w₀ w) : LoginTurn i id w₀ (w.record (.sent id call)) where
  others := h.others
  outside := h.outside
  inside hid call' r hsuffix := by
    rcases List.suffix_cons_iff.1 hsuffix with heq | hsuffix
    · cases heq
    · exact h.inside hid call' r hsuffix

theorem redirect (h : LoginTurn i id w₀ w) (source target : Endpoint) :
    LoginTurn i id w₀ (w.redirect source target) :=
  ⟨h.others, h.outside, h.inside⟩

/-- The end of a turn in which the right is given back. -/
theorem free (h : LoginTurn i id w₀ w) (hid : w.holder i = some id) :
    LoginTurn i id w₀ (w.free i) where
  others j hj := by
    have hw : w.holder i ≠ some j := fun heq => hj (Option.some.inj (heq.symm.trans hid))
    have hfree : (w.free i).holder i = none := if_pos rfl
    simp [h.others j hj, hw, hfree]
  outside := h.outside
  inside := h.inside

/-- The beginning of a turn in which a program gets the right. -/
theorem grant (hfree : w.holder i = none) : LoginTurn i id w (w.grant i id) where
  others j hj := by simp [World.grant, hfree, Ne.symm hj]
  outside _ := rfl
  inside hid := by
    rw [hfree] at hid
    cases hid

end LoginTurn

theorem LoginWait.of_ne {wait : Wait} (h : w'.holder i ≠ some id) : LoginWait i id w wait w' :=
  fun hid => absurd hid h

/-! ## Calls to the pool -/

variable {method : String} {params : List Value} {deadline : Option Time.Duration}

theorem loginAnswer?_of_redirectTarget? {r : Outcome Value} {master : String}
    (h : redirectTarget? r = some master) : loginAnswer? r = none := by
  cases r with
  | ok v => cases h
  | error e => rfl

/-- A call to the pool by a program without the right to log in again. -/
theorem callPool_keeps_outside {post : Outcome Value → World → World → Prop}
    (hw : LoginTurn i id w₀ w) (hid : w.holder i ≠ some id)
    (hpost : ∀ a w w', LoginTurn i id w w' → w.holder i ≠ some id → w'.holder i ≠ some id →
      post a w w') :
    (callPool method params deadline).Obeys (keepingLogin i id) id post w₀ w := by
  rw [Program.obeys_callPool]
  refine ⟨⟨hw.sent, .of_ne hid⟩, fun r w₁ hrely => ?_⟩
  have hid₁ : w₁.holder i ≠ some id := fun h => hid (hrely.2 h)
  have hturn : ∀ call, LoginTurn i id w₁ (w₁.record (.answered id call r)) :=
    fun call => .answered fun h => absurd h hid₁
  cases redirectTarget? r with
  | none => exact hpost r w₁ _ (hturn _) hid₁ hid₁
  | some master =>
    refine ⟨⟨((hturn _).redirect _ _).sent, .of_ne hid₁⟩, fun r' w₂ hrely' => ?_⟩
    have hid₂ : w₂.holder i ≠ some id := fun h => hid₁ (hrely'.2 h)
    exact hpost _ w₂ _ (.answered fun h => absurd h hid₂) hid₂ hid₂

/-- A login by a program that has just got the right to log in again. In its last turn it has just
been answered. -/
theorem callPool_keeps_inside {post : Outcome Value → World → World → Prop}
    (hw : LoginTurn i id w₀ w) (hid₀ : w₀.holder i ≠ some id) (hid : w.holder i = some id)
    (hc : (w₀.shared.login i).credentials = some c)
    (hpost : ∀ call r a w, w.holder i = some id → call.params = loginParams c →
      (∀ v, a = .ok v ↔ r = .ok v) → post a w (w.record (.answered id call r))) :
    (callPool method (loginParams c) deadline).Obeys (keepingLogin i id) id post w₀ w := by
  rw [Program.obeys_callPool]
  refine ⟨⟨hw.sent, fun _ => ⟨_, c, rfl, rfl, fun _ => hc, fun h => absurd h hid₀⟩⟩,
    fun r w₁ hrely => ?_⟩
  have hid₁ : w₁.holder i = some id := hrely.1 hid
  cases hr : redirectTarget? r with
  | none => exact hpost _ r r w₁ hid₁ rfl fun _ => Iff.rfl
  | some master =>
    have hturn : LoginTurn i id w₁ (w₁.record (.answered id
        ⟨w.shared.client.endpoint, method, loginParams c, deadline⟩ r)) :=
      .answered fun _ => loginAnswer?_of_redirectTarget? hr
    refine ⟨⟨(hturn.redirect _ _).sent, fun _ => ⟨_, c, rfl, rfl, fun h => absurd hid₁ h, ?_⟩⟩,
      fun r' w₂ hrely' => ?_⟩
    · intro _ first r'' hsuffix
      rcases List.suffix_cons_iff.1 hsuffix with heq | hsuffix
      · cases heq
      · cases eq_of_cons_suffix_cons hsuffix
        rfl
    · exact hpost _ r' _ w₂ (hrely'.1 hid₁) rfl fun v => secondAnswer_eq_ok_iff

/-! ## Logging in again -/

/-- A login by a program with the right to log in again stores the reference it is answered with,
and the credentials it has been sent with. -/
theorem logIn_keeps_login {h : Session} (hlogin : h.login = i)
    {post : Outcome String → World → World → Prop} (hw : LoginTurn i id w₀ w)
    (hid₀ : w₀.holder i ≠ some id) (hid : w.holder i = some id)
    (hc : (w₀.shared.login i).credentials = some c)
    (hpost : ∀ a w w', LoginTurn i id w w' → w.holder i = some id → w'.holder i = some id →
      post a w w') :
    (h.logIn c).Obeys (keepingLogin i id) id post w₀ w := by
  subst hlogin
  rw [logIn, Program.obeys_andThen]
  refine callPool_keeps_inside hw hid₀ hid hc fun call r a w₁ hid₁ hparams hr => ?_
  cases a with
  | error e =>
    refine hpost _ w₁ _ (.answered fun _ => ?_) hid₁ hid₁
    cases r with
    | error e' => rfl
    | ok v => cases (hr v).2 rfl
  | ok v =>
    obtain rfl : r = .ok v := (hr v).1 rfl
    simp only [Program.obeys_given]
    cases href : referenceOf "session.login_with_password -> " v with
    | error e =>
      exact hpost _ w₁ _ (.answered fun _ => by simp [loginAnswer?, href, Except.toOption])
        hid₁ hid₁
    | ok ref =>
      refine hpost _ w₁ _ ⟨fun _ _ => Iff.rfl, fun hne => absurd hid₁ hne, ?_⟩ hid₁ hid₁
      intro _ call' r' hsuffix
      cases eq_of_cons_suffix_cons hsuffix
      have hanswer : loginAnswer? (.ok v) = some ref := by
        simp [loginAnswer?, href, Except.toOption]
      rw [hanswer]
      refine ⟨by simp [World.change, Shared.setLogin], fun c' hc' => ?_⟩
      obtain rfl := loginParams_inj (hparams.symm.trans hc')
      simp [World.change, Shared.setLogin]

/-- A program that logs in again unless someone has done so: it waits for the right, and has
given it back when it is done. -/
theorem logInAgain_keeps_login {h : Session} {generation : Nat} (hlogin : h.login = i)
    {post : Outcome String → World → World → Prop} (hw : LoginTurn i id w₀ w)
    (hid : w.holder i ≠ some id)
    (hpost : ∀ a w w', LoginTurn i id w w' → w'.holder i ≠ some id → post a w w') :
    (h.logInAgain generation).Obeys (keepingLogin i id) id post w₀ w := by
  subst hlogin
  refine ⟨⟨hw, .of_ne hid⟩, fun w₁ _ hfree => ?_⟩
  have hgranted : (w₁.grant h.login id).holder h.login = some id := by simp [World.grant]
  have hfreed : ∀ w : World, (w.free h.login).holder h.login ≠ some id := fun w => by
    simp [World.free]
  have hgrant : LoginTurn h.login id w₁ (w₁.grant h.login id) := .grant hfree
  have hback := hgrant.free hgranted
  simp only [Program.Obeys]
  split
  · exact hpost _ w₁ _ hback (hfreed _)
  · split
    · exact hpost _ w₁ _ hback (hfreed _)
    · rename_i c hc
      simp only [Program.Obeys, Program.obeys_bind]
      refine logIn_keeps_login rfl hgrant (by simp [hfree]) hgranted hc
        fun a w₂ w₃ hturn _ hid₃ => ?_
      exact hpost _ w₂ _ (hturn.free hid₃) (hfreed _)

/-! ## Calls -/

/-- What the last turn of a call does: it gives no right to log in again, and if it gives a result,
it had none when it began. -/
structure LastTurn {α : Type} (i id : Nat) (a : Outcome α) (w w' : World) : Prop where
  turn : LoginTurn i id w w'
  holder : w'.holder i ≠ some id
  result : ∀ x, a = .ok x → w.holder i ≠ some id

/-- Every turn of a call keeps to the contract. -/
theorem call_keeps_login {h : Session} {args : List Value} (hlogin : h.login = i)
    (hid : w.holder i ≠ some id) :
    (h.call method args).Obeys (keepingLogin i id) id (LastTurn i id) w w := by
  have hend : ∀ (a : Outcome Value) w w', LoginTurn i id w w' → w.holder i ≠ some id →
      w'.holder i ≠ some id → LastTurn i id a w w' :=
    fun _ _ _ hturn hid hid' => ⟨hturn, hid', fun _ _ => hid⟩
  simp only [Session.call, Program.Obeys]
  split
  · exact hend _ _ _ .refl hid hid
  · simp only [Program.obeys_bind]
    refine callPool_keeps_outside .refl hid fun a w₁ w₂ hturn hid₁ hid₂ => ?_
    simp only [Program.Obeys]
    split
    · rw [Program.obeys_andThen]
      refine logInAgain_keeps_login hlogin hturn hid₂ fun a w₃ w₄ hturn hid₄ => ?_
      cases a with
      | error e =>
        refine ⟨hturn, hid₄, fun ref href => ?_⟩
        cases href
      | ok ref => exact callPool_keeps_outside hturn hid₄ hend
    · exact hend _ _ _ hturn hid₁ hid₂

end PoolClient
