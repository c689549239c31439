import PoolClient.Proofs.Attempts
import PoolClient.Proofs.Operations
/-!
# Sessions that are local to a host

A local login is one call, to the active endpoint and nowhere else. The session that it makes has
no credentials, so it never logs in again (`Dialogue.sojourn`). But its operations are sent like
all others: the first answer that names a master moves the active endpoint, and the call is sent on
to that master. So a local session stays on its host if and only if no answer names a master
(`local_session_stays_iff`).
-/

namespace PoolClient

open Session Time

/-! ## Staying and moving -/

/-- A call to the endpoint that is answered without a master, or a wait. -/
def Deed.StaysAt (e : Endpoint) : Deed → Prop
  | .sent call answer => call.endpoint = e ∧ ∀ master, ¬NamesMaster answer master
  | .paused _ => True

/-- The first answer that names a master is one to a call to the endpoint, and the call is sent on
to that master. -/
def SentOn (e : Endpoint) (ds : List Deed) : Prop :=
  ∃ before call answer master answer' after,
    ds = before ++ .sent call answer :: .sent (call.toMaster master) answer' :: after ∧
      (∀ d ∈ before, d.StaysAt e) ∧ call.endpoint = e ∧ NamesMaster answer master

/-- What has been waited for on the way from one state to another: only calls to the active
endpoint, which has stayed, or also the call that has moved it. -/
inductive Sojourn (s s' : Shared) (ds : List Deed) : Prop
  | stays (hclient : s'.client = s.client) (hds : ∀ d ∈ ds, d.StaysAt s.client.endpoint)
  | moves (hclient : s.client.generation < s'.client.generation)
    (hds : SentOn s.client.endpoint ds)

namespace Sojourn

variable {s s' s'' : Shared} {ds ds' : List Deed}

theorem of_client_eq (h : s'.client = s.client) : Sojourn s s' [] :=
  .stays h nofun

theorem generation_le (h : Sojourn s s' ds) : s.client.generation ≤ s'.client.generation := by
  cases h with
  | stays hclient hds => exact Nat.le_of_eq (congrArg Client.generation hclient).symm
  | moves hclient hds => exact Nat.le_of_lt hclient

theorem append (h : Sojourn s s' ds) (h' : Sojourn s' s'' ds') : Sojourn s s'' (ds ++ ds') := by
  cases h with
  | stays hclient hds =>
    cases h' with
    | stays hclient' hds' =>
      rw [hclient] at hds'
      refine .stays (hclient'.trans hclient) fun d hd => ?_
      exact (List.mem_append.1 hd).elim (hds d) (hds' d)
    | moves hclient' hds' =>
      rw [hclient] at hclient' hds'
      obtain ⟨before, call, answer, master, answer', after, rfl, hbefore, hcall⟩ := hds'
      refine .moves hclient' ⟨ds ++ before, call, answer, master, answer', after, by simp,
        fun d hd => ?_, hcall⟩
      exact (List.mem_append.1 hd).elim (hds d) (hbefore d)
  | moves hclient hds =>
    obtain ⟨before, call, answer, master, answer', after, rfl, hbefore, hcall⟩ := hds
    exact .moves (Nat.lt_of_lt_of_le hclient h'.generation_le)
      ⟨before, call, answer, master, answer', after ++ ds', by simp, hbefore, hcall⟩

/-- What leaves the client alone goes with what has been before. -/
theorem before (h : Sojourn s s' ds) (hclient : s''.client = s'.client) : Sojourn s s'' ds := by
  simpa using h.append (.of_client_eq hclient)

end Sojourn

/-! ## Programs without credentials -/

section Alone

variable {σ α : Type} {T : Transport σ} {s : Shared} {t : σ} {h : Session} {method : String}
  {params args : List Value} {deadline : Option Duration}

theorem sojourn_callPool :
    Sojourn s ((callPool method params deadline).alone T s t).shared
      ((callPool method params deadline).alone T s t).deeds := by
  cases htarget : redirectTarget? (T t ⟨s.client.endpoint, method, params, deadline⟩).1 with
  | none =>
    rw [alone_callPool_of_none rfl htarget]
    refine .stays rfl fun d hd => ?_
    rw [List.mem_singleton.1 hd]
    exact ⟨rfl, redirectTarget?_eq_none_iff.1 htarget⟩
  | some master =>
    rw [alone_callPool_of_some rfl htarget rfl]
    exact .moves (Nat.lt_succ_self _) ⟨[], _, _, master, _, [], rfl, nofun, rfl,
      redirectTarget?_eq_some_iff.1 htarget⟩

theorem worthLoggingIn_eq_false (hkeyless : (s.login h.login).credentials = none) (g : Nat)
    (r : Outcome Value) : h.worthLoggingIn g s r = false := by
  cases r <;> simp [worthLoggingIn, hkeyless]

/-- A call without credentials does not log in again. -/
theorem sojourn_call (hkeyless : (s.login h.login).credentials = none) :
    Sojourn s ((h.call method args).alone T s t).shared ((h.call method args).alone T s t).deeds ∧
      ((h.call method args).alone T s t).shared.login = s.login := by
  cases href : (s.login h.login).ref with
  | none =>
    have hover : (h.call method args).alone T s t = ⟨.error .notLoggedIn, s, t, []⟩ := by
      simp [call, href]
    rw [hover]
    exact ⟨.of_client_eq rfl, rfl⟩
  | some ref =>
    have hlogin : ((callPool method (.string ref :: args) h.deadline).alone T s t).shared.login =
        s.login := login_alone_callPool
    rw [alone_call href rfl, worthLoggingIn_eq_false (by rw [hlogin]; exact hkeyless)]
    exact ⟨sojourn_callPool, hlogin⟩

/-- The end of a session that holds a reference. -/
theorem alone_finish {ref : String} (href : (s.login h.login).ref = some ref)
    {e : Ending σ (Outcome Value)}
    (he : (callPool method [.string ref] h.deadline).alone T s t = e) :
    ((h.finish method).alone T s t).shared = e.shared.setLogin h.login
        { e.shared.login h.login with ref := none, credentials := none } ∧
      ((h.finish method).alone T s t).deeds = e.deeds := by
  subst he
  simp only [finish, Program.alone_look, href, Program.alone_bind, bind, Program.bind,
    Program.setLogin, Program.notice, Program.alone_change]
  split
  · simp [pure]
  · split <;> simp [pure]

/-- The end of a session is sent like a call, and leaves neither reference nor credentials. -/
theorem sojourn_finish (hkeyless : (s.login h.login).credentials = none) :
    Sojourn s ((h.finish method).alone T s t).shared ((h.finish method).alone T s t).deeds ∧
      (((h.finish method).alone T s t).shared.login h.login).credentials = none := by
  cases href : (s.login h.login).ref with
  | none =>
    have hover : (h.finish method).alone T s t = ⟨.error .notLoggedIn, s, t, []⟩ := by
      simp [finish, href]
    rw [hover]
    exact ⟨.of_client_eq rfl, hkeyless⟩
  | some ref =>
    have hcall : (callPool method [.string ref] h.deadline).alone T s t = _ := rfl
    obtain ⟨hshared, hdeeds⟩ := alone_finish href hcall
    rw [hshared, hdeeds]
    exact ⟨sojourn_callPool.before rfl, by simp [Shared.setLogin]⟩

/-- A dialogue without credentials stays without them. -/
theorem Dialogue.sojourn {i : Nat} {asks : String → List Value → Prop} {p : Program α}
    (hp : Dialogue i asks p) (hkeyless : (s.login i).credentials = none) :
    Sojourn s (p.alone T s t).shared (p.alone T s t).deeds ∧
      ((p.alone T s t).shared.login i).credentials = none := by
  induction hp generalizing s t with
  | done a => exact ⟨.of_client_eq rfl, hkeyless⟩
  | call hlogin _ _ ih =>
    subst hlogin
    rw [Program.alone_bind]
    obtain ⟨hcall, hlogin⟩ := sojourn_call hkeyless
    obtain ⟨hnext, hkeyless'⟩ := ih _ (by rw [hlogin]; exact hkeyless)
    exact ⟨hcall.append hnext, hkeyless'⟩
  | finish hlogin _ _ ih =>
    subst hlogin
    rw [Program.alone_bind]
    obtain ⟨hfinish, hkeyless'⟩ := sojourn_finish hkeyless
    obtain ⟨hnext, hkeyless'⟩ := ih _ hkeyless'
    exact ⟨hfinish.append hnext, hkeyless'⟩
  | pause _ ih =>
    obtain ⟨hnext, hkeyless'⟩ := ih hkeyless
    exact ⟨(Sojourn.stays rfl (by simp [Deed.StaysAt])).append hnext, hkeyless'⟩
  | remember href hcredentials _ ih =>
    rename_i f next _
    have hkeyless' : ((s.setLogin i (f s)).login i).credentials = none := by
      have hsome := hcredentials s
      rw [hkeyless] at hsome
      simpa [Shared.setLogin] using hsome
    obtain ⟨hnext, hkeyless'⟩ := ih () hkeyless'
    have hremember : Sojourn s (s.setLogin i (f s)) [] := .of_client_eq rfl
    exact ⟨hremember.append hnext, hkeyless'⟩

/-- A local login is one call to the active endpoint. It leaves the client alone, and the session
that it makes has no credentials. -/
theorem alone_logInLocally (T : Transport σ) (s : Shared) (t : σ) (h : Session)
    (username password : String) :
    let call : Call := ⟨s.client.endpoint, "session.slave_local_login_with_password",
      [.string username, .string password], h.deadline⟩
    let ending := (h.logInLocally username password).alone T s t
    ending.deeds = [.sent call (T t call).1] ∧ ending.shared.client = s.client ∧
      ∀ ref, ending.result = .ok ref → (ending.shared.login h.login).credentials = none := by
  simp only [logInLocally, Program.andThen, Program.alone_bind, callHost, Program.alone_look,
    Program.alone_send]
  split
  · rename_i v _
    cases referenceOf ("session.slave_local_login_with_password" ++ " -> ") v with
    | error e => simp [Program.given]
    | ok ref =>
      simp [Program.given, bind, Program.bind, Program.notice, Program.setLogin, pure,
        Shared.setLogin]
  · simp

end Alone

/-! ## A local session in use -/

/-- Operations on handles of one login, one after the other, whatever they end with. -/
def Session.Operation.inTurn (i : Nat) : List (Option Duration × Operation) → Program Unit
  | [] => .done ()
  | (deadline, op) :: ops => (op.program ⟨i, deadline⟩).bind fun _ => inTurn i ops

theorem Session.Operation.dialogue_inTurn (i : Nat) (ops : List (Option Duration × Operation)) :
    Dialogue i (fun _ _ => True) (inTurn i ops) := by
  induction ops with
  | nil => exact .done ()
  | cons first ops ih =>
    obtain ⟨deadline, op⟩ := first
    have hfirst : Dialogue i (fun _ _ => True) (op.program ⟨i, deadline⟩) :=
      (op.dialogue (h := ⟨i, deadline⟩) rfl).mono fun _ _ _ => trivial
    exact hfirst.bind fun _ => ih

/-- A local login that runs alone is one call to the active endpoint and leaves the client alone,
whatever the answer. If it succeeds, all operations that follow on the session, up to the next
login, leave the client alone if and only if no answer names a master, and then all their calls go
to the host of the session. Otherwise the first answer that names a master moves the active
endpoint, and the call is sent on to that master. -/
theorem local_session_stays_iff {σ : Type} (T : Transport σ) (s : Shared) (t : σ) (h : Session)
    (username password : String) :
    let call : Call := ⟨s.client.endpoint, "session.slave_local_login_with_password",
      [.string username, .string password], h.deadline⟩
    let login := (h.logInLocally username password).alone T s t
    login.deeds = [.sent call (T t call).1] ∧ login.shared.client = s.client ∧
    ∀ ref, login.result = .ok ref → ∀ ops : List (Option Duration × Operation),
      let ending := (Operation.inTurn h.login ops).alone T login.shared login.transport
      (ending.shared.client = s.client ↔ ∀ call answer, Deed.sent call answer ∈ ending.deeds →
        ∀ master, ¬NamesMaster answer master) ∧
      (ending.shared.client = s.client → ∀ call answer, Deed.sent call answer ∈ ending.deeds →
        call.endpoint = s.client.endpoint) ∧
      (ending.shared.client ≠ s.client →
        s.client.generation < ending.shared.client.generation ∧
          SentOn s.client.endpoint ending.deeds) := by
  intro call login
  obtain ⟨hdeeds, hclient, hkeyless⟩ := alone_logInLocally T s t h username password
  refine ⟨hdeeds, hclient, ?_⟩
  intro ref hok ops ending
  have hsojourn : Sojourn login.shared ending.shared ending.deeds :=
    ((Operation.dialogue_inTurn h.login ops).sojourn (hkeyless ref hok)).1
  cases hsojourn with
  | stays hstays hds =>
    rw [hclient] at hstays hds
    refine ⟨iff_of_true hstays fun call answer hsent => (hds _ hsent).2,
      fun _ call answer hsent => (hds _ hsent).1, fun hne => absurd hstays hne⟩
  | moves hmoves hds =>
    rw [hclient] at hmoves hds
    have hne : ending.shared.client ≠ s.client := fun heq => by simp [heq] at hmoves
    refine ⟨iff_of_false hne fun hnone => ?_, fun heq => absurd heq hne, fun _ => ⟨hmoves, hds⟩⟩
    obtain ⟨before, call, answer, master, answer', after, hdeeds, -, -, hmaster⟩ := hds
    exact hnone call answer (by simp [hdeeds]) master hmaster

/-- The host `b` is not the master, and answers only logins to itself. The master is `a`. -/
def localOnly : Transport Unit := fun t call =>
  (if call.method = "session.slave_local_login_with_password" then .ok (.string "local")
    else if call.endpoint.host = "b" then refusal "a" else .ok .nil, t)

/-- A call of a session that is local to `b` is sent on to `a`, and so the end of the session is
sent there too. -/
theorem local_session_sent_on :
    let login := ((Session.mk 0 none).logInLocally "root" "secret").alone localOnly
      (.initial (.ofHost "b" true) none) ()
    let ending := (Operation.inTurn 0
      [(none, .call "host.get_all" []), (none, .logOutLocally)]).alone
      localOnly login.shared login.transport
    login.result = .ok "local" ∧ login.shared.client = ⟨.ofHost "b" true, 0, none⟩ ∧
      ending.shared.client = ⟨.ofHost "a" true, 1, none⟩ ∧
      SentOn (.ofHost "b" true) ending.deeds := by
  intro login ending
  have hlogin : login.result = .ok "local" := by rfl
  have hending : ending.shared.client = ⟨.ofHost "a" true, 1, none⟩ := by rfl
  obtain ⟨-, hclient, hops⟩ := local_session_stays_iff localOnly
    (.initial (.ofHost "b" true) none) () ⟨0, none⟩ "root" "secret"
  obtain ⟨-, -, hsent⟩ := hops "local" hlogin
    [(none, .call "host.get_all" []), (none, .logOutLocally)]
  exact ⟨hlogin, hclient, hending, (hsent (by decide)).2⟩

end PoolClient
