import PoolClient.Session.Session
/-!
# Programs run alone

A program that runs alone is the only one to change the shared state. `Program.alone` runs it
against a transport whose answers may depend on everything it has been asked, and tells how it
ends: its result, the states it leaves behind, and what it has waited for.
-/

namespace PoolClient

open Time

variable {σ α β : Type}

/-! ## Endings -/

/-- A transport: its answer to a call, and the state it is in afterwards. -/
abbrev Transport (σ : Type) :=
  σ → Call → Outcome Value × σ

/-- What a program has waited for. -/
inductive Deed where
  | sent (call : Call) (answer : Outcome Value)
  | paused (time : Duration)

/-- How a program that ran alone has ended. The deeds are in their order. -/
structure Ending (σ α : Type) where
  result : α
  shared : Shared
  transport : σ
  deeds : List Deed

/-- The ending of a program that did something before. -/
def Ending.after (ds : List Deed) (e : Ending σ α) : Ending σ α :=
  { e with deeds := ds ++ e.deeds }

@[simp] theorem Ending.after_nil (e : Ending σ α) : e.after [] = e :=
  rfl

@[simp] theorem Ending.after_after (ds ds' : List Deed) (e : Ending σ α) :
    (e.after ds).after ds' = e.after (ds' ++ ds) := by
  simp [Ending.after]

@[simp] theorem Ending.result_after (ds : List Deed) (e : Ending σ α) :
    (e.after ds).result = e.result :=
  rfl

@[simp] theorem Ending.shared_after (ds : List Deed) (e : Ending σ α) :
    (e.after ds).shared = e.shared :=
  rfl

@[simp] theorem Ending.transport_after (ds : List Deed) (e : Ending σ α) :
    (e.after ds).transport = e.transport :=
  rfl

@[simp] theorem Ending.deeds_after (ds : List Deed) (e : Ending σ α) :
    (e.after ds).deeds = ds ++ e.deeds :=
  rfl

/-! ## Running alone -/

namespace Program

/-- Run a program against a transport while nothing else happens. The right to log in again is
free whenever it asks. -/
def alone (T : Transport σ) : Program α → Shared → σ → Ending σ α
  | .done a, s, t => ⟨a, s, t, []⟩
  | .look next, s, t => (next s).alone T s t
  | .change f next, s, t => next.alone T (f s) t
  | .note _ next, s, t => next.alone T s t
  | .send call next, s, t =>
    ((next (T t call).1).alone T s (T t call).2).after [.sent call (T t call).1]
  | .pause time next, s, t => (next.alone T s t).after [.paused time]
  | .acquire _ next, s, t => next.alone T s t
  | .release _ next, s, t => next.alone T s t

variable {T : Transport σ} {s : Shared} {t : σ}

@[simp] theorem alone_done (a : α) : (done a).alone T s t = ⟨a, s, t, []⟩ :=
  rfl

@[simp] theorem alone_look (next : Shared → Program α) :
    (look next).alone T s t = (next s).alone T s t :=
  rfl

@[simp] theorem alone_change (f : Shared → Shared) (next : Program α) :
    (change f next).alone T s t = next.alone T (f s) t :=
  rfl

@[simp] theorem alone_note (line : Notice) (next : Program α) :
    (note line next).alone T s t = next.alone T s t :=
  rfl

@[simp] theorem alone_send (call : Call) (next : Outcome Value → Program α) :
    (send call next).alone T s t =
      ((next (T t call).1).alone T s (T t call).2).after [.sent call (T t call).1] :=
  rfl

@[simp] theorem alone_pause (time : Duration) (next : Program α) :
    (pause time next).alone T s t = (next.alone T s t).after [.paused time] :=
  rfl

@[simp] theorem alone_acquire (i : Nat) (next : Program α) :
    (acquire i next).alone T s t = next.alone T s t :=
  rfl

@[simp] theorem alone_release (i : Nat) (next : Program α) :
    (release i next).alone T s t = next.alone T s t :=
  rfl

/-- What goes on with the result of a program begins where it ends. -/
theorem alone_bind (p : Program α) (f : α → Program β) :
    (p.bind f).alone T s t =
      ((f (p.alone T s t).result).alone T (p.alone T s t).shared
        (p.alone T s t).transport).after (p.alone T s t).deeds := by
  induction p generalizing s t with
  | done a => rfl
  | look next ih => exact ih s
  | change g next ih => exact ih
  | note line next ih => exact ih
  | send call next ih =>
    rw [bind, alone_send, ih]
    simp
  | pause time next ih =>
    rw [bind, alone_pause, ih]
    simp
  | acquire i next ih => exact ih
  | release i next ih => exact ih

/-- A program whose first part gives a value goes on with it. -/
theorem alone_andThen_of_ok {p : Program (Outcome α)} {f : α → Program (Outcome β)} {a : α}
    (h : (p.alone T s t).result = .ok a) :
    (p.andThen f).alone T s t =
      ((f a).alone T (p.alone T s t).shared (p.alone T s t).transport).after
        (p.alone T s t).deeds := by
  rw [andThen, alone_bind, h]

/-- A program whose first part gives an error is over with it. -/
theorem alone_andThen_of_error {p : Program (Outcome α)} {f : α → Program (Outcome β)}
    {error : Error} (h : (p.alone T s t).result = .error error) :
    (p.andThen f).alone T s t =
      ⟨.error error, (p.alone T s t).shared, (p.alone T s t).transport,
        (p.alone T s t).deeds⟩ := by
  rw [andThen, alone_bind, h]
  simp [Ending.after]

end Program

/-! ## Calls to a pool -/

/-- The state after the active endpoint has moved. -/
def Shared.moveTo (s : Shared) (target : Endpoint) : Shared :=
  { s with client :=
    { s.client with endpoint := target, generation := s.client.generation + 1 } }

variable {T : Transport σ} {s : Shared} {t : σ}

/-- A redirect of a program that runs alone moves the active endpoint. -/
theorem alone_redirect (target : Endpoint) :
    (redirect s.client.endpoint target).alone T s t = ⟨(), s.moveTo target, t, []⟩ := by
  simp [redirect, Client.redirect, Shared.moveTo]

variable {method : String} {params : List Value} {deadline : Option Duration}

/-- A call whose first answer names no master is over with it. -/
theorem alone_callPool_of_none {answer : Outcome Value × σ}
    (hanswer : T t ⟨s.client.endpoint, method, params, deadline⟩ = answer)
    (h : redirectTarget? answer.1 = none) :
    (callPool method params deadline).alone T s t =
      ⟨answer.1, s, answer.2,
        [.sent ⟨s.client.endpoint, method, params, deadline⟩ answer.1]⟩ := by
  subst hanswer
  simp [callPool, h, Ending.after]

/-- A call whose first answer names a master is sent there too, and ends with the second
answer. -/
theorem alone_callPool_of_some {answer answer' : Outcome Value × σ} {master : String}
    (hanswer : T t ⟨s.client.endpoint, method, params, deadline⟩ = answer)
    (h : redirectTarget? answer.1 = some master)
    (hanswer' :
      T answer.2 ⟨s.client.endpoint.withHost master, method, params, deadline⟩ = answer') :
    (callPool method params deadline).alone T s t =
      ⟨secondAnswer master answer'.1, s.moveTo (s.client.endpoint.withHost master), answer'.2,
        [.sent ⟨s.client.endpoint, method, params, deadline⟩ answer.1,
          .sent ⟨s.client.endpoint.withHost master, method, params, deadline⟩ answer'.1]⟩ := by
  subst hanswer hanswer'
  simp [callPool, h, Program.alone_bind, alone_redirect, Ending.after]

/-- A call to the pool leaves all logins alone. -/
theorem login_alone_callPool :
    ((callPool method params deadline).alone T s t).shared.login = s.login := by
  cases htarget : redirectTarget? (T t ⟨s.client.endpoint, method, params, deadline⟩).1 with
  | none => rw [alone_callPool_of_none rfl htarget]
  | some master =>
    rw [alone_callPool_of_some rfl htarget rfl]
    rfl

/-! ## Sessions -/

/-- What a login remembers that was made with a password. -/
def Login.renewed (l : Login) (ref : String) (generation : Nat) (c : Credentials) : Login :=
  { l with ref := some ref, generation := generation, credentials := some c }

namespace Session

@[simp] theorem referenceOf_string (label ref : String) :
    referenceOf label (.string ref) = .ok ref := by
  simp [referenceOf, Schema.WireType.decode, Except.map, Schema.Datum.asText]

variable {h : Session} {c : Credentials}

/-- A password login that gets a reference stores it, with the generation of the active
endpoint as it is then. -/
theorem alone_logIn_of_ok {e : Ending σ (Outcome Value)} {ref : String}
    (he : (callPool "session.login_with_password" (loginParams c) h.deadline).alone T s t = e)
    (href : e.result = .ok (.string ref)) :
    (h.logIn c).alone T s t =
      ⟨.ok ref, e.shared.setLogin h.login
        ((e.shared.login h.login).renewed ref e.shared.client.generation c),
        e.transport, e.deeds⟩ := by
  subst he
  rw [logIn, Program.alone_andThen_of_ok href, referenceOf_string]
  simp [Program.given, Ending.after, bind, pure, Program.bind, Program.notice,
    Program.setLogin, Login.renewed]

/-- A program that runs alone finds the login as it was, and logs in again itself. -/
theorem alone_logInAgain (hc : (s.login h.login).credentials = some c) :
    (h.logInAgain (s.login h.login).generation).alone T s t = (h.logIn c).alone T s t := by
  have hrelease : ∀ p : Program (Outcome String),
      (p.bind fun r => .release h.login (.done r)).alone T s t = p.alone T s t := by
    intro p
    rw [Program.alone_bind]
    simp [Ending.after]
  simp [logInAgain, hc, hrelease]

/-- A call of a session that holds a reference. -/
theorem alone_call {ref : String} (href : (s.login h.login).ref = some ref)
    {e : Ending σ (Outcome Value)}
    (he : (callPool method (.string ref :: params) h.deadline).alone T s t = e) :
    (h.call method params).alone T s t =
      if h.worthLoggingIn (s.login h.login).generation e.shared e.result then
        (((h.logInAgain (s.login h.login).generation).andThen fun ref =>
          callPool method (.string ref :: params) h.deadline).alone T e.shared
            e.transport).after e.deeds
      else e := by
  subst he
  simp only [call, Program.alone_look, href, Program.alone_bind]
  split
  · rfl
  · simp [Ending.after]

/-- A call whose result is read as a type does what the call does, and then reads. -/
theorem alone_invoke {result : Schema.WireType} {e : Ending σ (Outcome Value)}
    (he : (h.call method params).alone T s t = e) :
    (h.invoke method params result).alone T s t =
      ⟨e.result.bind fun v => (result.decode (method ++ " -> ") v).mapError .codec, e.shared,
        e.transport, e.deeds⟩ := by
  subst he
  cases hresult : ((h.call method params).alone T s t).result with
  | error error => exact Program.alone_andThen_of_error hresult
  | ok v =>
    rw [invoke, Program.alone_andThen_of_ok hresult]
    rw [Except.bind]
    cases result.decode (method ++ " -> ") v <;> exact congrArg _ (List.append_nil _)

end Session

end PoolClient
