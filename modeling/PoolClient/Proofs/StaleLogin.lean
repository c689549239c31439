import PoolClient.Proofs.Footprint
import PoolClient.Proofs.Logout
import PoolClient.Proofs.Stages
/-!
# Answers to a session that the server does not know

A session remembers, along with its reference, the generation of the active endpoint at the time
when its login was answered. If a call is answered that the server does not know the session, the
call compares that generation with the present one. It logs in again if the active endpoint has
moved since the login was answered, and hands the answer back otherwise (`turn_of_invalid`).

What counts is when the login was answered, and not when it was sent. If the active endpoint moves
in between, the session is known at one endpoint and remembers the generation of another, which
hands its refusals back to the caller (`turn_of_invalid_late`).
-/

namespace PoolClient

open Session

/-! ## The turns of a session's call -/

namespace Session

/-- Log in again and send the call once more, with the new reference. -/
def retry (h : Session) (generation : Nat) (method : String) (args : List Value) :
    Program (Outcome Value) :=
  (h.logInAgain generation).andThen fun ref => callPool method (.string ref :: args) h.deadline

/-- What a call does with the answer of the pool, before it ends. -/
def conclude {α : Type} (h : Session) (generation : Nat) (method : String) (args : List Value)
    (f : Outcome Value → α) (answer : Outcome Value) : Program α :=
  .look fun s =>
    if h.worthLoggingIn generation s answer then
      (h.retry generation method args).bind fun r => .done (f r)
    else .done (f answer)

end Session

variable {α : Type} {h : Session} {method : String} {args : List Value} {ref : String}
  {f : Outcome Value → α} {id g : Nat} {w : World}

/-- A call looks for the session reference, is sent to the pool, and concludes. -/
theorem Session.call_bind : ((h.call method args).bind fun r => .done (f r)) = .look fun s =>
    match (s.login h.login).ref with
    | none => .done (f (.error .notLoggedIn))
    | some ref => (callPool method (.string ref :: args) h.deadline).bind
      (h.conclude (s.login h.login).generation method args f) := by
  rw [call, Program.bind]
  congr
  funext s
  dsimp only
  cases (s.login h.login).ref with
  | none => rfl
  | some ref =>
    dsimp only
    rw [Program.bind_assoc]
    congr
    funext first
    rw [conclude, Program.bind]
    congr
    funext s'
    split <;> rfl

namespace Program

/-- A call of a session that is logged in is sent to the active endpoint. -/
theorem settle_call (href : (w.shared.login h.login).ref = some ref)
    (hg : (w.shared.login h.login).generation = g) :
    ((h.call method args).bind fun r => .done (f r)).settle id w =
      let first : Call := ⟨w.shared.client.endpoint, method, .string ref :: args, h.deadline⟩
      (.awaiting first fun r => (followUp first r).bind (h.conclude g method args f),
        w.record (.sent id first)) := by
  rw [Session.call_bind, settle, href, hg]
  rfl

/-- After the answer of the pool a call ends, or waits for the right to log in again. -/
theorem settle_conclude_ne_awaiting (r : Outcome Value) (call : Call)
    (next : Outcome Value → Program α) :
    ((h.conclude g method args f r).settle id w).1 ≠ .awaiting call next := by
  rw [conclude, settle]
  split
  · rintro ⟨⟩
  · rintro ⟨⟩

/-- If the server does not know the session, a call logs in again if the client is of another
generation than the login. -/
theorem settle_conclude_of_invalid {e : ServerError} (he : e.code = Api.sessionInvalid)
    (hcredentials : (w.shared.login h.login).credentials.isSome) :
    (h.conclude g method args f (.error (.server e))).settle id w =
      (if w.shared.client.generation = g then .done (f (.error (.server e)))
        else (h.retry g method args).bind fun r => .done (f r)).settle id w := by
  have hworth : h.worthLoggingIn g w.shared (.error (.server e)) =
      (w.shared.client.generation != g) := by
    simp [worthLoggingIn, Error.isServerCode, he, hcredentials]
  rw [conclude, settle, hworth]
  by_cases hg : w.shared.client.generation = g <;> simp [hg]

end Program

/-! ## Logging in again -/

/-- A call is sent to the active endpoint with the reference in front, and what comes of it is what
`f` makes of it. -/
def Session.sends (h : Session) (method : String) (args : List Value) (f : Outcome Value → α)
    (ref : String) (id : Nat) (w : World) : Stand α × World :=
  let call : Call := ⟨w.shared.client.endpoint, method, .string ref :: args, h.deadline⟩
  (.awaiting call fun r => (followUp call r).bind fun r => .done (f r), w.record (.sent id call))

/-- What a call does with the answer to its login with the credentials `c`. -/
structure LogsIn (h : Session) (c : Credentials) (method : String) (args : List Value)
    (f : Outcome Value → α) (k : Outcome Value → Program α) : Prop where
  /-- A reference is stored, along with the generation of the client and the credentials. The right
  to log in again is given back, and the call is sent with the reference. -/
  stored : ∀ id w ref, (k (.ok (.string ref))).settle id w =
    h.sends method args f ref id ((w.change fun s => s.setLogin h.login
      { s.login h.login with
        ref := some ref, generation := s.client.generation, credentials := some c }).free h.login)
  /-- If there is no reference, the right is given back, and the call fails with the login. -/
  failed : ∀ id w answer e, LoginFails answer e →
    (k answer).settle id w = (.ended (f (.error e)), w.free h.login)

/-- What a call does that has got the right to log in again, for a login of the generation `g`. -/
structure Renews (h : Session) (g : Nat) (method : String) (args : List Value)
    (f : Outcome Value → α) (next : Program α) : Prop where
  /-- If another has logged in since, the right is given back, and the call is sent with the
  reference that the other has got. -/
  newer : ∀ id w ref, (w.shared.login h.login).generation ≠ g →
    (w.shared.login h.login).ref = some ref →
    next.settle id w = h.sends method args f ref id (w.free h.login)
  /-- Otherwise it logs in at the active endpoint, with the credentials that are stored. -/
  login : ∀ id w c,
    ((w.shared.login h.login).generation = g ∨ (w.shared.login h.login).ref = none) →
    (w.shared.login h.login).credentials = some c →
    let issue : Call := ⟨w.shared.client.endpoint, "session.login_with_password",
      [.string c.username, .string c.password, .string c.version, .string c.originator],
      h.deadline⟩
    ∃ k, LogsIn h c method args f k ∧ next.settle id w =
      (.awaiting issue fun r => (followUp issue r).bind k, w.record (.sent id issue))
  /-- Without credentials, the session is not logged in. -/
  unable : ∀ id w,
    ((w.shared.login h.login).generation = g ∨ (w.shared.login h.login).ref = none) →
    (w.shared.login h.login).credentials = none →
    next.settle id w = (.ended (f (.error .notLoggedIn)), w.free h.login)

/-- What a call does with the answer to its login. -/
def Session.relogged (h : Session) (c : Credentials) (method : String) (args : List Value)
    (f : Outcome Value → α) (answer : Outcome Value) : Program α :=
  let login : Program (Outcome String) := match answer with
    | .error e => .done (.error e)
    | .ok v => .given (referenceOf "session.login_with_password -> " v) fun ref => do
      .notice fun s => .loggedIn s.client.endpoint c.originator c.username
      .setLogin h.login fun s =>
        { s.login h.login with
          ref := some ref, generation := s.client.generation, credentials := some c }
      return .ok ref
  ((login.bind fun r => .release h.login (.done r)).andThen fun ref =>
    callPool method (.string ref :: args) h.deadline).bind fun r => .done (f r)

theorem Session.logsIn_relogged (h : Session) (c : Credentials) (method : String)
    (args : List Value) (f : Outcome Value → α) :
    LogsIn h c method args f (h.relogged c method args f) where
  stored id w ref := rfl
  failed id w answer e hfails := by
    cases hfails with
    | failed => rfl
    | noText hv =>
      simp only [relogged, referenceOf_of_ne hv]
      rfl

/-- A login and what a call does after it are one call to the pool, and what is done with its
answer. -/
theorem Session.logIn_bind_relogged (h : Session) (c : Credentials) (method : String)
    (args : List Value) (f : Outcome Value → α) :
    ((((h.logIn c).bind fun r => .release h.login (.done r)).andThen fun ref =>
        callPool method (.string ref :: args) h.deadline).bind fun r => .done (f r)) =
      (callPool "session.login_with_password" (loginParams c) h.deadline).bind
        (h.relogged c method args f) := by
  simp only [logIn, Program.andThen, Program.bind_assoc]
  congr
  funext answer
  simp only [relogged, Program.andThen, Program.bind_assoc]
  cases answer <;> rfl

/-- To log in again and send the call once more is to wait for the right to log in again, and then
to renew the login. -/
theorem Session.exists_renews (h : Session) (g : Nat) (method : String) (args : List Value)
    (f : Outcome Value → α) :
    ∃ next, ((h.retry g method args).bind fun r => .done (f r)) = .acquire h.login next ∧
      Renews h g method args f next := by
  have hnone {w : World}
      (hsame : (w.shared.login h.login).generation = g ∨ (w.shared.login h.login).ref = none) :
      (if (w.shared.login h.login).generation ≠ g then (w.shared.login h.login).ref else none) =
        none := by
    obtain hsame | hsame := hsame <;> simp [hsame]
  refine ⟨_, rfl, ?_, ?_, ?_⟩
  · intro id w ref hg href
    simp only [Program.bind, Program.settle, if_pos hg, href]
    rfl
  · intro id w c hsame hc issue
    refine ⟨h.relogged c method args f, h.logsIn_relogged c method args f, ?_⟩
    have hlogIn := h.logIn_bind_relogged c method args f
    simp only [Program.andThen] at hlogIn
    simp only [Program.bind, Program.settle, hnone hsame, hc, hlogIn]
    rfl
  · intro id w hsame hc
    simp only [Program.bind, Program.settle, hnone hsame, hc]

/-! ## A call among other programs -/

/-- How far a call to the pool has come that was first sent at the generation `g`: an answer that
names a master is followed by a move of the active endpoint, if it has not moved before. -/
inductive Underway (first : Call) (k : Outcome Value → Program α) (g id : Nat)
    (s : System α) : Prop where
  | first (hstand : s.stands id = .awaiting first fun r => (followUp first r).bind k)
  | second (master : String) (hmoved : g < s.world.shared.client.generation)
    (hstand : s.stands id =
      .awaiting (first.toMaster master) fun r => k (secondAnswer master r))
  | answered (hstand : ∀ call next, s.stands id ≠ .awaiting call next)

section Underway

variable {first : Call} {k : Outcome Value → Program α} {s s' : System α} {c : Choice}
  {cs : List Choice} {s₀ : Shared}

/-- An answer to the first attempt. -/
theorem Underway.answer_first
    (hk : ∀ r w call next, ((k r).settle id w).1 ≠ .awaiting call next)
    (hfirst : first.endpoint = s₀.client.endpoint)
    (hchange : Footprint.moving.changes s₀ s.world.shared)
    (r : Outcome Value) :
    Underway first k s₀.client.generation id (s.place id
      (((followUp first r).bind k).settle id (s.world.record (.answered id first r)))) := by
  cases hr : redirectTarget? r with
  | none =>
    rw [Program.settle_followUp_of_none hr]
    exact .answered fun call next => by simpa [System.place] using hk r _ call next
  | some master =>
    rw [Program.settle_followUp_of_some hr]
    refine .second master ?_ (by simp [System.place])
    have hmoved : s₀.client.generation <
        (s.world.shared.client.redirect first.endpoint
          (first.toMaster master).endpoint).generation := by
      rw [Client.redirect]
      split
      · rcases hchange with hsame | hlt
        · exact hsame ▸ Nat.lt_succ_self _
        · exact Nat.lt_succ_of_lt hlt
      · rename_i hne
        rcases hchange with hsame | hlt
        · exact absurd (hsame ▸ hfirst.symm) hne
        · exact hlt
    exact hmoved

/-- Answers take the call on, and the turns of others leave it where it is. -/
theorem Underway.step (hk : ∀ r w call next, ((k r).settle id w).1 ≠ .awaiting call next)
    (hfirst : first.endpoint = s₀.client.endpoint) (hwithin : s.Within .moving)
    (hchange : Footprint.moving.changes s₀ s.world.shared)
    (h : Underway first k s₀.client.generation id s) (hs : s.step c = some s')
    (hc : c.id = id → ∃ r, c = .answer id r) :
    Underway first k s₀.client.generation id s' := by
  by_cases hid : c.id = id
  · obtain ⟨r, rfl⟩ := hc hid
    cases h with
    | first hstand =>
      rw [System.step_awaiting hstand] at hs
      obtain rfl := Option.some.inj hs
      exact .answer_first hk hfirst hchange r
    | second master hmoved hstand =>
      rw [System.step_awaiting hstand] at hs
      obtain rfl := Option.some.inj hs
      exact .answered fun call next => by simpa [System.place] using hk _ _ call next
    | answered hstand =>
      obtain ⟨call, next, hawaiting⟩ := System.awaiting_of_step_answer hs
      exact absurd hawaiting (hstand call next)
  · have hsame := System.stands_of_step hs fun h => hid h.symm
    cases h with
    | first hstand => exact .first (hsame.trans hstand)
    | second master hmoved hstand =>
      refine .second master ?_ (hsame.trans hstand)
      rcases (System.step_within hwithin hs).1 with h | h
      · rwa [h]
      · exact Nat.lt_trans hmoved h
    | answered hstand => exact .answered (hsame ▸ hstand)

/-- A call that has got nothing but answers since it was sent is underway. -/
theorem Underway.run (hk : ∀ r w call next, ((k r).settle id w).1 ≠ .awaiting call next)
    (hfirst : first.endpoint = s₀.client.endpoint) (hwithin : s.Within .moving)
    (hchange : Footprint.moving.changes s₀ s.world.shared)
    (h : Underway first k s₀.client.generation id s) (hr : s.run cs = some s')
    (hcs : ∀ c ∈ cs, c.id = id → ∃ r, c = .answer id r) :
    Underway first k s₀.client.generation id s' := by
  have hstep : ∀ (s : System α) c s', (c.id = id → ∃ r, c = .answer id r) →
      (s.Within .moving ∧ Footprint.moving.changes s₀ s.world.shared ∧
        Underway first k s₀.client.generation id s) → s.step c = some s' →
      s'.Within .moving ∧ Footprint.moving.changes s₀ s'.world.shared ∧
        Underway first k s₀.client.generation id s' := by
    intro s c s' hc ⟨hwithin, hchange, h⟩ hs
    obtain ⟨hturn, hwithin'⟩ := System.step_within hwithin hs
    exact ⟨hwithin', Footprint.moving.trans _ _ _ hchange hturn,
      h.step hk hfirst hwithin hchange hs hc⟩
  exact (foldlM_invariant hstep hr hcs ⟨hwithin, hchange, h⟩).2.2

/-- A call whose answer is an error of the server, and not a refusal, goes on with it. It has been
sent once only, or the active endpoint has moved since it was sent. -/
theorem Underway.settle_error {call : Call} {next : Outcome Value → Program α} {e : ServerError}
    (h : Underway first k g id s) (hwaits : s.stands id = .awaiting call next)
    (he : e.code ≠ Api.hostIsSlave) (w : World) :
    (call = first ∨ g < s.world.shared.client.generation) ∧
      (next (.error (.server e))).settle id w = (k (.error (.server e))).settle id w := by
  cases h with
  | first hstand =>
    obtain ⟨rfl, rfl⟩ := Stand.awaiting.inj (hwaits.symm.trans hstand)
    have hr : redirectTarget? (.error (.server e)) = none := by simp [redirectTarget?, he]
    exact ⟨.inl rfl, Program.settle_followUp_of_none hr⟩
  | second master hmoved hstand =>
    obtain ⟨rfl, rfl⟩ := Stand.awaiting.inj (hwaits.symm.trans hstand)
    have hr : secondAnswer master (.error (.server e)) = .error (.server e) := by
      simp [secondAnswer, he]
    exact ⟨.inr hmoved, by simp only [hr]⟩
  | answered hstand => exact absurd hwaits (hstand call next)

end Underway

section Invalid

variable {b s s' s'' : System α} {cs cs' : List Choice} {call : Call}
  {next : Outcome Value → Program α} {e : ServerError}

/-- A call of a session that is logged in is underway until it asks for the right to log in
again. -/
theorem underway_of_call (hwithin : s.Within .moving)
    (hidle : s.stands id = .idle ((h.call method args).bind fun r => .done (f r)))
    (href : (s.world.shared.login h.login).ref = some ref)
    (hg : (s.world.shared.login h.login).generation = g)
    (hcall : s.run (.go id :: cs') = some s')
    (hcs : ∀ c ∈ cs', c.id = id → ∃ r, c = .answer id r) :
    Underway ⟨s.world.shared.client.endpoint, method, .string ref :: args, h.deadline⟩
      (h.conclude g method args f) s.world.shared.client.generation id s' := by
  rw [System.run_cons] at hcall
  obtain ⟨s₁, hbegin, hrun⟩ := Option.bind_eq_some_iff.1 hcall
  have hwithin₁ := (System.step_within hwithin hbegin).2
  rw [System.step_go hidle, Program.settle_call href hg] at hbegin
  obtain rfl := Option.some.inj hbegin
  exact .run (fun r w => Program.settle_conclude_ne_awaiting r) rfl hwithin₁
    (Footprint.moving.refl _) (.first (by simp [System.place])) hrun hcs

/-- A login has been answered and stored in a turn that ended in `b`, and the programs of `b` move
the active endpoint only along with its generation. A call with that login's reference, before it
logs in again, is answered that the server does not know the session. Then the call hands this
answer back if the active endpoint has not moved since `b`, so that it is the endpoint of `b` that
has given the answer. Otherwise it waits for the right to log in again on its login, and with that
right it takes up the reference of a newer login or logs in itself, and is sent once more with the
reference it has got (`Renews`). -/
theorem turn_of_invalid (hwithin : b.Within .moving) (hrun : b.run cs = some s)
    (hidle : s.stands id = .idle ((h.call method args).bind fun r => .done (f r)))
    (href : (s.world.shared.login h.login).ref = some ref)
    (hgeneration : (s.world.shared.login h.login).generation =
      b.world.shared.client.generation)
    (hcall : s.run (.go id :: cs') = some s')
    (hcs : ∀ c ∈ cs', c.id = id → ∃ r, c = .answer id r)
    (hwaits : s'.stands id = .awaiting call next)
    (hcredentials : (s'.world.shared.login h.login).credentials.isSome)
    (he : e.code = Api.sessionInvalid)
    (hstep : s'.step (.answer id (.error (.server e))) = some s'') :
    (s'.world.shared.client = b.world.shared.client →
        call.endpoint = b.world.shared.client.endpoint) ∧
      ∃ again, Renews h b.world.shared.client.generation method args f again ∧
        s'' = s'.place id
          (if s'.world.shared.client = b.world.shared.client then .ended (f (.error (.server e)))
            else .queueing h.login again,
            s'.world.record (.answered id call (.error (.server e)))) := by
  obtain ⟨hbefore, hwithin₀⟩ := System.run_within hwithin hrun
  obtain ⟨hmeanwhile, -⟩ := System.run_within hwithin₀ hcall
  have hsince : s'.world.shared.client = b.world.shared.client ∨
      b.world.shared.client.generation < s'.world.shared.client.generation :=
    Footprint.moving.trans _ _ _ hbefore hmeanwhile
  -- The generation tells whether the active endpoint has moved.
  have hmoved : s'.world.shared.client.generation = b.world.shared.client.generation ↔
      s'.world.shared.client = b.world.shared.client := by
    refine ⟨fun hsame => ?_, fun hsame => by rw [hsame]⟩
    rcases hsince with hsince | hlt
    · exact hsince
    · exact absurd hsame (Nat.ne_of_gt hlt)
  have hother : e.code ≠ Api.hostIsSlave := by
    rw [he]
    decide
  have hunderway := underway_of_call hwithin₀ hidle href hgeneration hcall hcs
  obtain ⟨hattempt, hturn⟩ := hunderway.settle_error hwaits hother
    (s'.world.record (.answered id call (.error (.server e))))
  constructor
  · intro hsame
    have hclient : s.world.shared.client = b.world.shared.client := by
      rcases hbefore with hbefore | hlt
      · exact hbefore
      · rcases hmeanwhile with hmeanwhile | hlt'
        · exact hmeanwhile.symm.trans hsame
        · rw [hsame] at hlt'
          exact absurd hlt (Nat.lt_asymm hlt')
    rcases hattempt with rfl | hlt
    · exact congrArg Client.endpoint hclient
    · rw [hsame, hclient] at hlt
      exact absurd hlt (Nat.lt_irrefl _)
  · obtain ⟨again, hagain, hrenews⟩ :=
      h.exists_renews b.world.shared.client.generation method args f
    refine ⟨again, hrenews, ?_⟩
    rw [System.step_awaiting hwaits, hturn,
      Program.settle_conclude_of_invalid (w := s'.world.record _) he hcredentials, hagain] at hstep
    rw [← Option.some.inj hstep, World.shared_record]
    simp only [hmoved]
    split <;> rfl

end Invalid

/-- Two logins of different sessions, and a call of the first session, at a pool whose active
endpoint is the host `a`. -/
def twoLogins : System (Outcome Unit) where
  world := ⟨.initial (.ofHost "a" true) none, fun _ => none, []⟩
  stands
    | 0 => .idle ((Session.mk 0 none).logIn (.ofUser "root" "secret" none)).void
    | 1 => .idle ((Session.mk 1 none).logIn (.ofUser "guest" "guest" none)).void
    | 2 => .idle ((Session.mk 0 none).call "VM.get_all" []).void
    | _ => .ended (.ok ())

theorem twoLogins_within : twoLogins.Within .moving := by
  have hlogIn (h : Session) (c : Credentials) : (h.logIn c).void.Within .moving :=
    Program.within_bind (Program.within_logIn (Footprint.admits_moving _) c) fun _ => trivial
  have hcall (h : Session) (method : String) (args : List Value) :
      (h.call method args).void.Within .moving :=
    Program.within_bind (Program.within_call (Footprint.admits_moving _) method args)
      fun _ => trivial
  intro id
  rcases id with _ | _ | _ | id
  · exact hlogIn ⟨0, none⟩ _
  · exact hlogIn ⟨1, none⟩ _
  · exact hcall ⟨0, none⟩ _ _
  · trivial

/-- Both logins are sent to `a`, and `a` names `b` to the second before it answers the first. -/
def lateAnswer : List Choice :=
  [.go 0, .go 1, .answer 1 (refusal "b"), .answer 1 (.ok (.string "other")),
    .answer 0 (.ok (.string "old"))]

/-- The server's answer to a call of a session that it does not know. -/
def invalid : ServerError :=
  .new Api.sessionInvalid ["old"]

/-- The first login is answered by `a` after the second has moved the active endpoint to `b`. The
call is sent to `b`, which does not know the session, and hands this answer back. -/
theorem turn_of_invalid_late :
    ∃ b s s' issue call next, twoLogins.run lateAnswer = some b ∧
      b.world.history.head? = some (.answered 0 issue (.ok (.string "old"))) ∧
      issue.endpoint = .ofHost "a" true ∧ b.run [.go 2] = some s ∧
      s.stands 2 = .awaiting call next ∧ call.params = [.string "old"] ∧
      call.endpoint = .ofHost "b" true ∧
      s.step (.answer 2 (.error (.server invalid))) = some s' ∧
      s'.stands 2 = .ended (.error (.server invalid)) := by
  obtain ⟨b, s, s', issue, call, next, hlogins, hanswer, hissue, hcall, hwaits, hparams, hendpoint,
      hstep, hidle, href, hgeneration, hcredentials, hsame⟩ :
      ∃ b s s' issue call next, twoLogins.run lateAnswer = some b ∧
        b.world.history.head? = some (.answered 0 issue (.ok (.string "old"))) ∧
        issue.endpoint = .ofHost "a" true ∧ b.run [.go 2] = some s ∧
        s.stands 2 = .awaiting call next ∧ call.params = [.string "old"] ∧
        call.endpoint = .ofHost "b" true ∧
        s.step (.answer 2 (.error (.server invalid))) = some s' ∧
        b.stands 2 = .idle ((Session.mk 0 none).call "VM.get_all" []).void ∧
        (b.world.shared.login 0).ref = some "old" ∧
        (b.world.shared.login 0).generation = b.world.shared.client.generation ∧
        (s.world.shared.login 0).credentials.isSome ∧
        s.world.shared.client = b.world.shared.client :=
    ⟨_, _, _, _, _, _, rfl, rfl, rfl, rfl, rfl, rfl, rfl, rfl, rfl, rfl, rfl, rfl, rfl⟩
  refine ⟨b, s, s', issue, call, next, hlogins, hanswer, hissue, hcall, hwaits, hparams, hendpoint,
    hstep, ?_⟩
  have hwithin := (System.run_within twoLogins_within hlogins).2
  have hrun : b.run [] = some b := rfl
  obtain ⟨-, again, -, hturn⟩ := turn_of_invalid (h := ⟨0, none⟩) hwithin hrun hidle href
    hgeneration hcall (by simp) hwaits hcredentials rfl hstep
  rw [hturn, if_pos hsame]
  rfl

end PoolClient
