import PoolClient.Proofs.Logout
/-!
# A changed password among calls

Any number of calls and one change of the password run on handles of one login. When the change
succeeds, the session remembers the new password. A call that logs in again afterwards sends what
the session remembers at that time. But a call that is logging in again at the moment of the change
has taken the old credentials along, and its session remembers them once its login is answered. So
the new password stays if and only if no login with another one is under way when the change
succeeds (`password_after_change_iff`).
-/

namespace PoolClient

open Session

/-- The password that a session logs in again with. -/
def Login.password? (l : Login) : Option String :=
  l.credentials.map Credentials.password

/-- The program `id` is logging in again on the login `i`, with the credentials `c`. -/
structure System.LogsInAgain {α : Type} (s : System α) (i id : Nat) (c : Credentials) : Prop where
  holder : s.world.holder i = some id
  waits : ∃ call next, s.stands id = .awaiting call next ∧ call.params = loginParams c

/-! ## The change -/

/-- A turn in which the program `id` changes the password on the login `i`. -/
structure ChangingTurn (i id : Nat) (new : String) (w w' : World) : Prop where
  others : ∀ j, j ≠ id → (w.holder i = some j ↔ w'.holder i = some j)
  outside : w.holder i ≠ some id ∧ w'.holder i ≠ some id
  credentials : (w'.shared.login i).credentials =
    (w.shared.login i).credentials.map fun c => { c with password := new }

/-- The last turn of a call or of a change `t` of the password, which takes place if and only if it
succeeds. -/
inductive ChangeEnd (i t : Nat) (new : String) (id : Nat) :
    Outcome Unit → World → World → Prop where
  | changed {w w' : World} (ht : id = t) (hturn : ChangingTurn i id new w w') :
    ChangeEnd i t new id (.ok ()) w w'
  | unchanged {a : Outcome Unit} {w w' : World} (hnot : id = t → a ≠ .ok ())
    (hturn : LoginTurn i id w w') (hid : w'.holder i ≠ some id) : ChangeEnd i t new id a w w'

variable {i t id : Nat} {old new : String} {w w' : World}

theorem ChangeEnd.others {a : Outcome Unit} (h : ChangeEnd i t new id a w w') {j : Nat}
    (hj : j ≠ id) : w.holder i = some j ↔ w'.holder i = some j := by
  cases h with
  | changed ht hturn => exact hturn.others j hj
  | unchanged hnot hturn hid => exact hturn.others j hj

theorem changePassword_keeps_login {h : Session} (hlogin : h.login = i)
    (hid : w.holder i ≠ some t) :
    (h.changePassword old new).Obeys (keepingLogin i t) t (ChangeEnd i t new t) w w := by
  subst hlogin
  simp only [changePassword, invoke, Program.obeys_andThen]
  refine (call_keeps_login rfl hid).mono (fun _ _ h => h) (fun _ _ _ h => h)
    fun a w w' hlast => ?_
  cases a with
  | error e => exact .unchanged nofun hlast.turn hlast.holder
  | ok v =>
    simp only [Program.obeys_given]
    cases Schema.WireType.decode .nothing _ v with
    | error e => exact .unchanged nofun hlast.turn hlast.holder
    | ok d =>
      have hout : w.holder h.login ≠ some t := hlast.result v rfl
      refine .changed rfl ⟨hlast.turn.others, ⟨hout, hlast.holder⟩, ?_⟩
      simp [World.change, Shared.setLogin, hlast.turn.outside hout]

/-! ## Calls and a change -/

/-- Calls on the login `i`, any number of them, and one change `t` of the password. None has begun,
nobody has the right to log in again, and the session remembers credentials. -/
structure CallsAndChange (i t : Nat) (old new : String) (s : System (Outcome Unit)) : Prop where
  change : ∃ h : Session, h.login = i ∧ s.stands t = .idle (h.changePassword old new)
  calls : ∀ id, id ≠ t → ∃ (h : Session) (method : String) (args : List Value), h.login = i ∧
    s.stands id = .idle (h.call method args).void
  free : s.world.holder i = none
  credentials : (s.world.shared.login i).credentials.isSome

/-- All programs keep their contracts, who has the right to log in again does so, and the session
remembers credentials. -/
structure ChangingSystem (i t : Nat) (new : String) (s : System (Outcome Unit)) : Prop where
  obeys : s.Obeys (fun id => keepingLogin i id) (ChangeEnd i t new)
  logsIn : ∀ id, s.world.holder i = some id → ∃ c, s.LogsInAgain i id c
  credentials : (s.world.shared.login i).credentials.isSome

theorem compatible_keepingLogin (i t : Nat) (new : String) :
    Compatible (fun id => keepingLogin i id) (ChangeEnd i t new) where
  refl _ _ := Iff.rfl
  trans _ _ _ _ h h' := Iff.trans h h'
  turn _ other hne _ _ _ h := h.1.others other hne
  last _ _ hne _ _ _ h := h.others hne

variable {s s' s₁ : System (Outcome Unit)} {c : Choice} {cs : List Choice}

theorem CallsAndChange.changingSystem (hs : CallsAndChange i t old new s) :
    ChangingSystem i t new s where
  obeys := by
    intro id
    have hid : ∀ w, (keepingLogin i id).rely s.world w → w.holder i ≠ some id := by
      intro w hrely hw
      have := hrely.2 hw
      rw [hs.free] at this
      cases this
    by_cases ht : id = t
    · subst ht
      obtain ⟨h, hlogin, hstand⟩ := hs.change
      rw [hstand]
      exact fun w hw => changePassword_keeps_login hlogin (hid w hw)
    · obtain ⟨h, method, args, hlogin, hstand⟩ := hs.calls id ht
      rw [hstand]
      refine fun w hw => Program.obeys_bind.2 ?_
      exact (call_keeps_login hlogin (hid w hw)).mono (fun _ _ h => h) (fun _ _ _ h => h)
        fun _ _ _ hlast => .unchanged (fun h => absurd h ht) hlast.turn hlast.holder
  logsIn id hid := by
    rw [hs.free] at hid
    cases hid
  credentials := hs.credentials

namespace ChangingSystem

/-- A turn changes the password, or is a turn of a call. -/
theorem turn_cases (h : ChangingSystem i t new s) (hs : s.step c = some s') :
    (c.id = t ∧ s'.stands t = .ended (.ok ()) ∧ ChangingTurn i t new s.world s'.world) ∨
      (LoginTurn i c.id s.world s'.world ∧ (c.id = t → s'.stands t ≠ .ended (.ok ()))) := by
  have hmeets := (System.step_obeys (compatible_keepingLogin i t new) h.obeys hs).1
  cases hstand : s'.stands c.id with
  | idle p => exact absurd hmeets (by simp [hstand, Stand.Meets])
  | awaiting call next =>
    rw [hstand] at hmeets
    exact .inr ⟨hmeets.1, by rintro rfl; simp [hstand]⟩
  | pausing time next =>
    rw [hstand] at hmeets
    exact .inr ⟨hmeets.1, by rintro rfl; simp [hstand]⟩
  | queueing j next =>
    rw [hstand] at hmeets
    exact .inr ⟨hmeets.1, by rintro rfl; simp [hstand]⟩
  | ended a =>
    rw [hstand] at hmeets
    cases hmeets with
    | changed ht hturn =>
      subst ht
      exact .inl ⟨rfl, hstand, hturn⟩
    | unchanged hnot hturn hid =>
      refine .inr ⟨hturn, ?_⟩
      rintro rfl hok
      rw [hstand] at hok
      exact hnot rfl (Stand.ended.inj hok)

theorem others (h : ChangingSystem i t new s) (hs : s.step c = some s') {id : Nat}
    (hid : id ≠ c.id) : s.world.holder i = some id ↔ s'.world.holder i = some id := by
  obtain ⟨hc, -, hturn⟩ | ⟨hturn, -⟩ := h.turn_cases hs
  · exact hturn.others id (hc ▸ hid)
  · exact hturn.others id hid

/-- Who has the right to log in again after its turn is logging in: with what the session
remembered, if the program has just got the right, and else with the credentials as before. -/
theorem logsIn_of_step (h : ChangingSystem i t new s) (hs : s.step c = some s')
    (hid : s'.world.holder i = some c.id) :
    ∃ cr, s'.LogsInAgain i c.id cr ∧
      (s.world.holder i ≠ some c.id → (s.world.shared.login i).credentials = some cr) ∧
      ∀ cr', s.LogsInAgain i c.id cr' → cr' = cr := by
  have hmeets := (System.step_obeys (compatible_keepingLogin i t new) h.obeys hs).1
  have hwait : ∀ wait, (keepingLogin i c.id).guarantee s.world wait s'.world →
      ∃ call cr, wait = .answer call ∧ call.params = loginParams cr ∧
        (s.world.holder i ≠ some c.id → (s.world.shared.login i).credentials = some cr) ∧
        ∀ cr', s.LogsInAgain i c.id cr' → cr' = cr := by
    intro wait hguarantee
    obtain ⟨call, cr, hcall, hparams, hbegins, hgoes⟩ := hguarantee.2 hid
    refine ⟨call, cr, hcall, hparams, hbegins, ?_⟩
    rintro cr' ⟨hholder, first, next, hstand, hfirst⟩
    obtain ⟨r, hsuffix⟩ := System.answered_of_step hstand hs
    exact loginParams_inj (hfirst.symm.trans (hgoes hholder first r hsuffix))
  cases hstand : s'.stands c.id with
  | idle p => exact absurd hmeets (by simp [hstand, Stand.Meets])
  | awaiting call next =>
    rw [hstand] at hmeets
    obtain ⟨_, cr, ⟨⟩, hparams, hcr⟩ := hwait _ hmeets
    exact ⟨cr, ⟨hid, call, next, hstand, hparams⟩, hcr⟩
  | pausing time next =>
    rw [hstand] at hmeets
    obtain ⟨_, _, ⟨⟩, _⟩ := hwait _ hmeets
  | queueing j next =>
    rw [hstand] at hmeets
    obtain ⟨_, _, ⟨⟩, _⟩ := hwait _ hmeets
  | ended a =>
    rw [hstand] at hmeets
    cases hmeets with
    | changed ht hturn => exact absurd hid hturn.outside.2
    | unchanged hnot hturn hout => exact absurd hid hout

/-- In a turn of a call the session remembers the credentials that it did, or those that the call
has logged in with. -/
theorem credentials_cases (h : ChangingSystem i t new s) (hs : s.step c = some s')
    (hturn : LoginTurn i c.id s.world s'.world) :
    (s'.world.shared.login i).credentials = (s.world.shared.login i).credentials ∨
      ∃ cr, s.LogsInAgain i c.id cr ∧ (s'.world.shared.login i).credentials = some cr := by
  by_cases hid : s.world.holder i = some c.id
  · obtain ⟨cr, hcr⟩ := h.logsIn c.id hid
    obtain ⟨call, next, hstand, hparams⟩ := hcr.waits
    obtain ⟨r, hsuffix⟩ := System.answered_of_step hstand hs
    have hinside := hturn.inside hid call r hsuffix
    cases hr : loginAnswer? r with
    | none =>
      rw [hr] at hinside
      exact .inl (congrArg Login.credentials hinside)
    | some ref =>
      rw [hr] at hinside
      exact .inr ⟨cr, hcr, hinside.2 cr hparams⟩
  · exact .inl (congrArg Login.credentials (hturn.outside hid))

theorem step (h : ChangingSystem i t new s) (hs : s.step c = some s') :
    ChangingSystem i t new s' where
  obeys := (System.step_obeys (compatible_keepingLogin i t new) h.obeys hs).2
  logsIn id hid := by
    by_cases hc : id = c.id
    · subst hc
      obtain ⟨cr, hcr, -⟩ := h.logsIn_of_step hs hid
      exact ⟨cr, hcr⟩
    · obtain ⟨cr, -, call, next, hstand, hparams⟩ := h.logsIn id ((h.others hs hc).2 hid)
      exact ⟨cr, hid, call, next, (System.stands_of_step hs hc).trans hstand, hparams⟩
  credentials := by
    obtain ⟨-, -, hturn⟩ | ⟨hturn, -⟩ := h.turn_cases hs
    · rw [hturn.credentials, Option.isSome_map]
      exact h.credentials
    · obtain heq | ⟨cr, -, heq⟩ := h.credentials_cases hs hturn
      · rw [heq]
        exact h.credentials
      · rw [heq]
        rfl

theorem run (h : ChangingSystem i t new s) (hr : s.run cs = some s') :
    ChangingSystem i t new s' :=
  System.run_invariant (fun _ _ _ h => h.step) hr h

/-- A change that succeeds is remembered. -/
theorem password_of_ends (h : ChangingSystem i t new s) (hs : s.step c = some s')
    (hbefore : ∀ a, s.stands t ≠ .ended a) (hend : s'.stands t = .ended (.ok ())) :
    (s'.world.shared.login i).password? = some new := by
  have hc : c.id = t := by
    by_contra hne
    exact hbefore _ ((System.stands_of_step hs (Ne.symm hne)).symm.trans hend)
  obtain ⟨-, -, hturn⟩ | ⟨-, hnot⟩ := h.turn_cases hs
  · obtain ⟨cr, hcr⟩ := Option.isSome_iff_exists.1 h.credentials
    simp [Login.password?, hturn.credentials, hcr]
  · exact absurd hend (hnot hc)

end ChangingSystem

/-! ## After the change -/

/-- The change is over, the session remembers the new password, and who is logging in again has
logged in with it. -/
structure PasswordKept (i t : Nat) (new : String) (s : System (Outcome Unit)) : Prop
    extends ChangingSystem i t new s where
  finished : ∃ a, s.stands t = .ended a
  password : (s.world.shared.login i).password? = some new
  inFlight : ∀ id cr, s.LogsInAgain i id cr → cr.password = new

/-- A turn sends the password that the session remembers, and stores the one that was sent. -/
theorem PasswordKept.step (h : PasswordKept i t new s) (hs : s.step c = some s') :
    PasswordKept i t new s' := by
  obtain ⟨a, hfinished⟩ := h.finished
  have hc : c.id ≠ t := by
    rintro rfl
    rw [System.step_ended hfinished] at hs
    cases hs
  have hturn : LoginTurn i c.id s.world s'.world := by
    obtain ⟨ht, -⟩ | ⟨hturn, -⟩ := h.turn_cases hs
    · exact absurd ht hc
    · exact hturn
  have hpassword : ∀ cr, (s.world.shared.login i).credentials = some cr → cr.password = new := by
    intro cr hcr
    simpa [Login.password?, hcr] using h.password
  refine ⟨h.toChangingSystem.step hs, ⟨a, ?_⟩, ?_, ?_⟩
  · rw [System.stands_of_step hs hc.symm, hfinished]
  · obtain heq | ⟨cr, hcr, heq⟩ := h.credentials_cases hs hturn
    · rw [Login.password?, heq]
      exact h.password
    · rw [Login.password?, heq]
      exact congrArg some (h.inFlight _ cr hcr)
  · rintro id cr ⟨hid, call, next, hstand, hparams⟩
    by_cases hown : id = c.id
    · subst hown
      obtain ⟨cr', ⟨-, call', next', hstand', hparams'⟩, hbegins, hgoes⟩ := h.logsIn_of_step hs hid
      obtain ⟨rfl, -⟩ := Stand.awaiting.inj (hstand.symm.trans hstand')
      obtain rfl := loginParams_inj (hparams.symm.trans hparams')
      by_cases hheld : s.world.holder i = some c.id
      · obtain ⟨cr', hcr'⟩ := h.logsIn _ hheld
        exact hgoes cr' hcr' ▸ h.inFlight _ cr' hcr'
      · exact hpassword cr (hbegins hheld)
    · refine h.inFlight id cr ⟨(h.others hs hown).2 hid, call, next, ?_, hparams⟩
      exact (System.stands_of_step hs hown).symm.trans hstand

/-- Who is logging in again can be answered with a reference, and its session remembers the
credentials that it has logged in with. -/
theorem ChangingSystem.stores {cr : Credentials} (h : ChangingSystem i t new s)
    (hcr : s.LogsInAgain i id cr) :
    ∃ s', s.run [.answer id (.ok (.string ""))] = some s' ∧
      (s'.world.shared.login i).password? = some cr.password := by
  obtain ⟨call, next, hstand, hparams⟩ := hcr.waits
  obtain ⟨s', hs, hsuffix⟩ := System.step_answer hstand (.ok (.string ""))
  refine ⟨s', by simpa [System.run] using hs, ?_⟩
  obtain ⟨hid, -, hturn⟩ | ⟨hturn, -⟩ := h.turn_cases hs
  · obtain rfl : id = t := hid
    exact absurd hcr.holder hturn.outside.1
  · have hstored := (hturn.inside hcr.holder call _ hsuffix).2 cr hparams
    simp [Login.password?, hstored]

/-- When a change of the password succeeds, the session remembers the new password. Whoever logs in
again from then on sends the credentials that the session remembers when it gets the right to do so.
In every run these hold the new password, if and only if no login with another password is under way
when the change succeeds. -/
theorem password_after_change_iff {s₀ : System (Outcome Unit)}
    (hs₀ : CallsAndChange i t old new s₀) (hrun : s₀.run cs = some s) (hstep : s.step c = some s₁)
    (hbefore : ∀ a, s.stands t ≠ .ended a) (hend : s₁.stands t = .ended (.ok ())) :
    (s₁.world.shared.login i).password? = some new ∧
      (∀ cs s₂ c s₃ id, s₁.run cs = some s₂ → s₂.step c = some s₃ →
        s₂.world.holder i ≠ some id → s₃.world.holder i = some id →
        ∃ cr, s₃.LogsInAgain i id cr ∧ (s₂.world.shared.login i).credentials = some cr) ∧
      ((∀ cs s₂, s₁.run cs = some s₂ → (s₂.world.shared.login i).password? = some new) ↔
        ∀ id cr, s₁.LogsInAgain i id cr → cr.password = new) := by
  have h := hs₀.changingSystem.run hrun
  have hpassword := h.password_of_ends hstep hbefore hend
  have h₁ := h.step hstep
  refine ⟨hpassword, fun cs s₂ c s₃ id hr hs hnot hid => ?_, fun hstays id cr hcr => ?_,
    fun hsame cs s₂ hr => ?_⟩
  · obtain rfl : id = c.id := by
      by_contra hne
      exact hnot (((h₁.run hr).others hs hne).2 hid)
    obtain ⟨cr, hcr, hbegins, -⟩ := (h₁.run hr).logsIn_of_step hs hid
    exact ⟨cr, hcr, hbegins hnot⟩
  · obtain ⟨s₂, hr, hstored⟩ := h₁.stores hcr
    rw [hstays _ s₂ hr] at hstored
    exact (Option.some.inj hstored).symm
  · have hkept : PasswordKept i t new s₁ := ⟨h₁, ⟨_, hend⟩, hpassword, hsame⟩
    exact (System.run_invariant (fun _ _ _ h hs => PasswordKept.step h hs) hr hkept).password

/-- A session that had logged in to the host `a`, with a change of its password as program 1 and
calls as all others. -/
def changingPool : System (Outcome Unit) where
  world := movedPool.world
  stands id :=
    if id = 1 then .idle (changePassword ⟨0, none⟩ "pw" "changed")
    else .idle (Session.call ⟨0, none⟩ "VM.get_all" []).void

/-- A change of the password that is answered while a call logs in again, because the master has
moved to `b`, is undone by the answer to that call's login. -/
theorem not_password_after_change :
    ∃ s s₁, changingPool.run [.go 1, .go 0,
        .answer 0 (.error (.server (.new Api.hostIsSlave ["b"]))),
        .answer 0 (.error (.server (.new Api.sessionInvalid ["old"]))), .go 0] = some s ∧
      s.step (.answer 1 (.ok (.string ""))) = some s₁ ∧ s₁.stands 1 = .ended (.ok ()) ∧
      (s₁.world.shared.login 0).password? = some "changed" ∧
      ¬ ∀ cs s₂, s₁.run cs = some s₂ → (s₂.world.shared.login 0).password? = some "changed" := by
  have hstart : CallsAndChange 0 1 "pw" "changed" changingPool :=
    ⟨⟨⟨0, none⟩, rfl, rfl⟩, fun id hid => ⟨⟨0, none⟩, "VM.get_all", [], rfl, if_neg hid⟩, rfl, rfl⟩
  obtain ⟨s, s₁, call, next, call', next', hs, hstep, hwaits, hend, hholder, hstand, hparams⟩ :
      ∃ s s₁ call next call' next', changingPool.run
          [.go 1, .go 0, .answer 0 (.error (.server (.new Api.hostIsSlave ["b"]))),
          .answer 0 (.error (.server (.new Api.sessionInvalid ["old"]))), .go 0] = some s ∧
        s.step (.answer 1 (.ok (.string ""))) = some s₁ ∧ s.stands 1 = .awaiting call' next' ∧
        s₁.stands 1 = .ended (.ok ()) ∧ s₁.world.holder 0 = some 0 ∧
        s₁.stands 0 = .awaiting call next ∧
        call.params = loginParams ⟨"root", "pw", "1.0", "me"⟩ :=
    ⟨_, _, _, _, _, _, rfl, rfl, rfl, rfl, rfl, rfl, rfl⟩
  obtain ⟨hpassword, -, hiff⟩ :=
    password_after_change_iff hstart hs hstep (by simp [hwaits]) hend
  refine ⟨s, s₁, hs, hstep, hend, hpassword, fun hstays => ?_⟩
  have hsame := hiff.1 hstays 0 _ ⟨hholder, call, next, hstand, hparams⟩
  exact absurd hsame (by decide)

end PoolClient
