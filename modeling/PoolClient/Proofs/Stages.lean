import PoolClient.Proofs.Attempts
/-!
# The stages of a call of a session

A call of a session goes through up to three stages, and each of them is a call to the pool, of one
attempt or two (`Stage`): the call itself, a login, and the call again. The `Course` of a call says
what is sent in which stage, when there is a next one, and what comes of the last. It leaves nothing
open but the answers, and these are the transport's (`Transport.Gave`). A call of a session that
runs alone has such a course (`call_course`).
-/

namespace PoolClient

open Session Time

/-! ## Answers -/

section Gave

variable {σ α : Type}

/-- The transport has given the answers among some deeds, which have taken it from one state to
another. -/
def Transport.Gave (T : Transport σ) : σ → List Deed → σ → Prop
  | t, [], t' => t = t'
  | t, .sent call answer :: ds, t' => (T t call).1 = answer ∧ T.Gave (T t call).2 ds t'
  | t, .paused _ :: ds, t' => T.Gave t ds t'

/-- The answers to a program that runs alone are the transport's. -/
theorem gave_alone (T : Transport σ) (p : Program α) (s : Shared) (t : σ) :
    T.Gave t (p.alone T s t).deeds (p.alone T s t).transport := by
  induction p generalizing s t with
  | done a => rfl
  | look next ih => exact ih s s t
  | change f next ih => exact ih (f s) t
  | note line next ih => exact ih s t
  | send call next ih => exact ⟨rfl, ih _ s _⟩
  | pause time next ih => exact ih s t
  | acquire i next ih => exact ih s t
  | release i next ih => exact ih s t

end Gave

/-! ## Stages -/

/-- A call to the pool over the client `c`: what is sent and answered, what comes of it, and the
client afterwards. -/
inductive Stage (c : Client) (method : String) (params : List Value) (deadline : Option Duration) :
    List Deed → Outcome Value → Client → Prop
  /-- The answer names no master. -/
  | once {answer : Outcome Value} (h : ∀ master, ¬NamesMaster answer master) :
    Stage c method params deadline [.sent ⟨c.endpoint, method, params, deadline⟩ answer] answer c
  /-- The answer names a master, and the master does not refuse the call. -/
  | moved {answer answer' : Outcome Value} {master : String} (h : NamesMaster answer master)
    (h' : ¬Refuses answer') :
    Stage c method params deadline
      [.sent ⟨c.endpoint, method, params, deadline⟩ answer,
        .sent ⟨c.endpoint.withHost master, method, params, deadline⟩ answer'] answer'
      { c with endpoint := c.endpoint.withHost master, generation := c.generation + 1 }
  /-- The answer names a master, who refuses the call as well. -/
  | refused {answer : Outcome Value} {e : ServerError} {master : String}
    (h : NamesMaster answer master) (h' : e.code = Api.hostIsSlave) :
    Stage c method params deadline
      [.sent ⟨c.endpoint, method, params, deadline⟩ answer,
        .sent ⟨c.endpoint.withHost master, method, params, deadline⟩ (.error (.server e))]
      (.error (.transport (.tooManyRedirects (e.params.head?.getD master))))
      { c with endpoint := c.endpoint.withHost master, generation := c.generation + 1 }

/-- The server does not know the session, and the active endpoint has moved since the login. -/
def Outdated (l : Login) (c : Client) (outcome : Outcome Value) : Prop :=
  (∃ e, outcome = .error (.server e) ∧ e.code = "SESSION_INVALID") ∧ c.generation ≠ l.generation

/-- A call to the pool that logs in with what is stored. -/
def LoginStage (c : Client) (credentials : Credentials) (deadline : Option Duration) :
    List Deed → Outcome Value → Client → Prop :=
  Stage c "session.login_with_password" [.string credentials.username,
    .string credentials.password, .string credentials.version, .string credentials.originator]
    deadline

/-- A login that has got no reference, and what comes of it. -/
inductive LoginFails : Outcome Value → Error → Prop
  | failed {e : Error} : LoginFails (.error e) e
  | noText {v : Value} (hv : ∀ ref, v ≠ .string ref) :
    LoginFails (.ok v)
      (.codec ⟨"session.login_with_password -> ", .typeMismatch .string v.type⟩)

/-- The course of a call of a session over the client `c`, with `ref` as the reference in its login
`l`: what is sent and answered, and what comes of it. -/
inductive Course (c : Client) (l : Login) (ref method : String) (args : List Value)
    (deadline : Option Duration) : List Deed → Outcome Value → Prop
  | called {c₁ : Client} {ds : List Deed} {outcome : Outcome Value}
    (hcall : Stage c method (.string ref :: args) deadline ds outcome c₁)
    (hover : ¬Outdated l c₁ outcome ∨ l.credentials = none) :
    Course c l ref method args deadline ds outcome
  | refused {c₁ c₂ : Client} {ds ds₁ : List Deed} {outcome login : Outcome Value}
    {credentials : Credentials} {e : Error}
    (hcall : Stage c method (.string ref :: args) deadline ds outcome c₁)
    (houtdated : Outdated l c₁ outcome) (hcredentials : l.credentials = some credentials)
    (hlogin : LoginStage c₁ credentials deadline ds₁ login c₂) (hfails : LoginFails login e) :
    Course c l ref method args deadline (ds ++ ds₁) (.error e)
  | repeated {c₁ c₂ c₃ : Client} {ds ds₁ ds₂ : List Deed} {outcome outcome' : Outcome Value}
    {credentials : Credentials} {ref' : String}
    (hcall : Stage c method (.string ref :: args) deadline ds outcome c₁)
    (houtdated : Outdated l c₁ outcome) (hcredentials : l.credentials = some credentials)
    (hlogin : LoginStage c₁ credentials deadline ds₁ (.ok (.string ref')) c₂)
    (hagain : Stage c₂ method (.string ref' :: args) deadline ds₂ outcome' c₃) :
    Course c l ref method args deadline (ds ++ ds₁ ++ ds₂) outcome'

/-- A call with the deadline. -/
def Deed.SentBy (deadline : Option Duration) : Deed → Prop
  | .sent call _ => call.deadline = deadline
  | .paused _ => False

section

variable {c c' : Client} {l : Login} {ref method : String} {params args : List Value}
  {deadline : Option Duration} {ds : List Deed} {outcome : Outcome Value}

theorem Stage.bounded (h : Stage c method params deadline ds outcome c') :
    ds.length ≤ 2 ∧ ∀ d ∈ ds, d.SentBy deadline := by
  cases h with
  | once => simp [Deed.SentBy]
  | moved => simp [Deed.SentBy]
  | refused => simp [Deed.SentBy]

theorem LoginStage.bounded {credentials : Credentials}
    (h : LoginStage c credentials deadline ds outcome c') :
    ds.length ≤ 2 ∧ ∀ d ∈ ds, d.SentBy deadline :=
  Stage.bounded h

/-- A call is sent at most six times, a login in between included. -/
theorem Course.bounded (h : Course c l ref method args deadline ds outcome) :
    ds.length ≤ 6 ∧ ∀ d ∈ ds, d.SentBy deadline := by
  cases h with
  | called hcall =>
    obtain ⟨hlength, hsent⟩ := hcall.bounded
    exact ⟨by omega, hsent⟩
  | refused hcall _ _ hlogin =>
    obtain ⟨hlength, hsent⟩ := hcall.bounded
    obtain ⟨hlength₁, hsent₁⟩ := hlogin.bounded
    rw [List.length_append, List.forall_mem_append]
    exact ⟨by omega, hsent, hsent₁⟩
  | repeated hcall _ _ hlogin hagain =>
    obtain ⟨hlength, hsent⟩ := hcall.bounded
    obtain ⟨hlength₁, hsent₁⟩ := hlogin.bounded
    obtain ⟨hlength₂, hsent₂⟩ := hagain.bounded
    simp only [List.length_append, List.forall_mem_append]
    exact ⟨by omega, ⟨hsent, hsent₁⟩, hsent₂⟩

end

/-! ## Calls that run alone -/

section Alone

variable {σ : Type} {T : Transport σ} {s : Shared} {t : σ} {h : Session} {c : Credentials}
  {method : String} {params args : List Value} {deadline : Option Duration}

theorem stage_callPool :
    let e := (callPool method params deadline).alone T s t
    Stage s.client method params deadline e.deeds e.result e.shared.client := by
  cases htarget : redirectTarget? (T t ⟨s.client.endpoint, method, params, deadline⟩).1 with
  | none =>
    rw [alone_callPool_of_none rfl htarget]
    exact .once (redirectTarget?_eq_none_iff.1 htarget)
  | some master =>
    rw [alone_callPool_of_some rfl htarget rfl]
    have hnames := redirectTarget?_eq_some_iff.1 htarget
    generalize T (T t ⟨s.client.endpoint, method, params, deadline⟩).2 _ = second
    by_cases hrefuses : Refuses second.1
    · obtain ⟨e, he, hcode⟩ := hrefuses
      rw [he, secondAnswer_of_code hcode]
      exact .refused hnames hcode
    · rw [secondAnswer_of_not_refuses hrefuses]
      exact .moved hnames hrefuses

/-- What is read as a reference is a text. -/
theorem referenceOf_of_ne {label : String} {v : Value} (hv : ∀ ref, v ≠ .string ref) :
    referenceOf label v = .error ⟨label, .typeMismatch .string v.type⟩ := by
  cases v with
  | string ref => exact absurd rfl (hv ref)
  | _ => rfl

/-- A login is a call to the pool that returns a reference. -/
theorem stage_logIn :
    let e := (h.logIn c).alone T s t
    ∃ outcome, LoginStage s.client c h.deadline e.deeds outcome e.shared.client ∧
      ((∃ ref, outcome = .ok (.string ref) ∧ e.result = .ok ref) ∨
        ∃ error, LoginFails outcome error ∧ e.result = .error error) := by
  have hstage : LoginStage s.client c h.deadline _ _ _ :=
    @stage_callPool σ T s t "session.login_with_password" (loginParams c) h.deadline
  rw [logIn, Program.andThen, Program.alone_bind]
  generalize (callPool "session.login_with_password" (loginParams c) h.deadline).alone T s t = e
    at hstage ⊢
  refine ⟨e.result, ?_⟩
  cases hresult : e.result with
  | error err =>
    rw [hresult] at hstage
    exact ⟨by simpa using hstage, .inr ⟨err, .failed, rfl⟩⟩
  | ok v =>
    rw [hresult] at hstage
    by_cases htext : ∃ ref, v = .string ref
    · obtain ⟨ref, rfl⟩ := htext
      have href : referenceOf "session.login_with_password -> " (.string ref) = .ok ref := rfl
      refine ⟨?_, .inl ⟨ref, rfl, ?_⟩⟩
      · simpa [href, Program.given, bind, pure, Program.bind, Program.notice, Program.setLogin,
          Shared.setLogin] using hstage
      · simp [href, Program.given, bind, pure, Program.bind, Program.notice, Program.setLogin]
    · have hv := not_exists.1 htext
      simp only [referenceOf_of_ne hv, Program.given]
      exact ⟨by simpa using hstage, .inr ⟨_, .noText hv, rfl⟩⟩

theorem worthLoggingIn_iff {outcome : Outcome Value} :
    h.worthLoggingIn (s.login h.login).generation s outcome = true ↔
      Outdated (s.login h.login) s.client outcome ∧ (s.login h.login).credentials ≠ none := by
  cases outcome with
  | ok v => simp [worthLoggingIn, Outdated]
  | error e =>
    cases e <;>
      simp [worthLoggingIn, Outdated, Error.isServerCode, Api.sessionInvalid,
        Option.isSome_iff_ne_none]

/-- A call of a session that runs alone goes through up to three stages, in which it is sent at most
six times, always with the deadline of the handle. The first is sent with the reference that is
stored at the start. If it ends with an invalid session, the active endpoint has moved since the
login, be it in this stage, and there are credentials, the second is a login with them, and if this
gets a reference, the third is sent with it. What comes of the last stage is the result. -/
theorem call_course {σ : Type} (T : Transport σ) (s : Shared) (t : σ) (h : Session)
    (method : String) (args : List Value) {ref : String}
    (href : (s.login h.login).ref = some ref) :
    let ending := (h.call method args).alone T s t
    Course s.client (s.login h.login) ref method args h.deadline ending.deeds ending.result ∧
      T.Gave t ending.deeds ending.transport ∧ ending.deeds.length ≤ 6 ∧
      ∀ d ∈ ending.deeds, d.SentBy h.deadline := by
  intro ending
  let e := (callPool method (.string ref :: args) h.deadline).alone T s t
  have hending : ending = _ := alone_call (e := e) href rfl
  have hcourse : Course s.client (s.login h.login) ref method args h.deadline ending.deeds
      ending.result := by
    have hlogin : e.shared.login = s.login := login_alone_callPool
    have hworth := @worthLoggingIn_iff e.shared h e.result
    rw [hlogin] at hworth
    by_cases hretry : h.worthLoggingIn (s.login h.login).generation e.shared e.result = true
    · obtain ⟨houtdated, hcredentials⟩ := hworth.1 hretry
      obtain ⟨c, hc⟩ := Option.ne_none_iff_exists'.1 hcredentials
      have hagain : (h.logInAgain (s.login h.login).generation).alone T e.shared e.transport =
          (h.logIn c).alone T e.shared e.transport := by
        rw [← hlogin] at hc ⊢
        exact alone_logInAgain hc
      obtain ⟨login, hstage, ⟨ref', rfl, hresult⟩ | ⟨error, hfails, hresult⟩⟩ :=
        @stage_logIn σ T e.shared e.transport h c
      · rw [hending, if_pos hretry, Program.andThen, Program.alone_bind, hagain, hresult]
        simpa using Course.repeated stage_callPool houtdated hc hstage stage_callPool
      · rw [hending, if_pos hretry, Program.andThen, Program.alone_bind, hagain, hresult]
        simpa using Course.refused stage_callPool houtdated hc hstage hfails
    · rw [hending, if_neg hretry]
      refine .called stage_callPool ?_
      rw [hworth, Classical.not_and_iff_not_or_not, Classical.not_not] at hretry
      exact hretry
  exact ⟨hcourse, gave_alone .., hcourse.bounded⟩

end Alone

/-- The answers are given one after the other, whatever the calls are. -/
def scripted : Transport (List (Outcome Value))
  | [], _ => (.ok .nil, [])
  | answer :: rest, _ => (answer, rest)

/-- The master moves while the call, the login and the call again are on their way, so that each of
them is sent twice. -/
theorem call_course_six :
    let c : Credentials := .ofUser "root" "secret" none
    let l : Login := { Login.fresh with ref := some "old", credentials := some c }
    let s := (Shared.initial (.ofHost "a" true) none).setLogin 0 l
    let invalid : Outcome Value := .error (.server (.ofInfo [Api.sessionInvalid, "old"]))
    let ending := ((Session.mk 0 none).call "VM.get_all" []).alone scripted s
      [refusal "b", invalid, refusal "c", .ok (.string "new"), refusal "d", .ok .nil]
    ending.result = .ok .nil ∧ ending.deeds.length = 6 ∧
      Course s.client l "old" "VM.get_all" [] none ending.deeds ending.result := by
  intro c l s invalid ending
  have href : (s.login 0).ref = some "old" := rfl
  obtain ⟨hcourse, -⟩ := call_course scripted s
    [refusal "b", invalid, refusal "c", .ok (.string "new"), refusal "d", .ok .nil]
    ⟨0, none⟩ "VM.get_all" [] href
  exact ⟨rfl, rfl, hcourse⟩

end PoolClient
