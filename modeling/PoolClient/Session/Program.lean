import PoolClient.ApiVersion
import PoolClient.Endpoint
import PoolClient.Failure.Error
/-!
# Resumable operations

Every operation is a `Program`: it looks at the shared state, changes it, and waits, for the
answer to a call, for time to pass, or for the right to log in again. Between two waits nothing
else happens, so a program's looks and changes up to its next wait are one step. `Shared` is
the state that programs share: the client with its active endpoint, and what each login
remembers.
-/

namespace PoolClient

open Time

/-! ## Shared state -/

/-- The way to a pool. The generation counts the moves of the active endpoint. -/
structure Client where
  endpoint : Endpoint
  generation : Nat
  deadline : Option Duration
  deriving DecidableEq, Repr, Inhabited

/-- What a password login is made with. -/
structure Credentials where
  username : String
  password : String
  version : String
  originator : String
  deriving DecidableEq, Repr, Inhabited

/-- What a session remembers. Credentials are kept for password logins only, and the generation
is that of the client when the login was made. -/
structure Login where
  ref : Option String
  generation : Nat
  credentials : Option Credentials
  apiVersion : Option ApiVersion
  softwareVersion : Option String
  deriving DecidableEq, Repr

/-- A session before its first login. -/
def Login.fresh : Login :=
  ⟨none, 0, none, none, none⟩

instance : Inhabited Login :=
  ⟨.fresh⟩

/-- The state that programs share: a client, and the logins over it by number. -/
structure Shared where
  client : Client
  login : Nat → Login

/-- The state with the login `i` changed. -/
def Shared.setLogin (s : Shared) (i : Nat) (l : Login) : Shared :=
  { s with login := fun j => if j = i then l else s.login j }

/-- The state before any login. -/
def Shared.initial (endpoint : Endpoint) (deadline : Option Duration) : Shared :=
  ⟨⟨endpoint, 0, deadline⟩, fun _ => .fresh⟩

/-! ## Programs -/

/-- A call as it is handed to the transport. -/
structure Call where
  endpoint : Endpoint
  method : String
  params : List Value
  deadline : Option Duration
  deriving Repr

/-- A line of the log. -/
inductive Notice where
  | loggedIn (endpoint : Endpoint) (originator user : String)
  | loggedInLocally (endpoint : Endpoint) (user : String)
  | loggedOut (endpoint : Endpoint)
  | redirected (source target : String)
  | loggingInAgain (endpoint : Endpoint) (user : String)
  deriving DecidableEq, Repr

/-- The text of a log line. -/
def Notice.text : Notice → String
  | .loggedIn endpoint originator user =>
    "INFO logged in; endpoint=" ++ endpoint.url ++ ", originator=" ++ originator ++
      ", user=" ++ user
  | .loggedInLocally endpoint user =>
    "INFO logged in locally; endpoint=" ++ endpoint.url ++ ", user=" ++ user
  | .loggedOut endpoint => "INFO logged out; endpoint=" ++ endpoint.url
  | .redirected source target =>
    "WARNING redirected to pool master; from=" ++ source ++ ", to=" ++ target
  | .loggingInAgain endpoint user =>
    "WARNING session invalidated by master change, logging in again; endpoint=" ++
      endpoint.url ++ ", user=" ++ user

/-- The outcome of a call. -/
abbrev Outcome := Except Error

/-- How an operation ends that may panic: with what it returns, or in a panic, which returns nothing
and does nothing more. -/
inductive Completion (α : Type) where
  | returned (a : α)
  | panicked
  deriving DecidableEq, Repr

/-- What is made of what is returned. -/
def Completion.map {α β : Type} (f : α → β) : Completion α → Completion β
  | .returned a => .returned (f a)
  | .panicked => .panicked

/-- An operation, up to its result. -/
inductive Program (α : Type) where
  | done (result : α)
  | look (next : Shared → Program α)
  | change (f : Shared → Shared) (next : Program α)
  | note (line : Notice) (next : Program α)
  | send (call : Call) (next : Outcome Value → Program α)
  | pause (time : Duration) (next : Program α)
  | acquire (login : Nat) (next : Program α)
  | release (login : Nat) (next : Program α)

namespace Program

/-- Go on with the result of a program. -/
def bind {α β : Type} (p : Program α) (f : α → Program β) : Program β :=
  match p with
  | .done a => f a
  | .look next => .look fun s => (next s).bind f
  | .change g next => .change g (next.bind f)
  | .note line next => .note line (next.bind f)
  | .send call next => .send call fun r => (next r).bind f
  | .pause time next => .pause time (next.bind f)
  | .acquire login next => .acquire login (next.bind f)
  | .release login next => .release login (next.bind f)

instance : Monad Program where
  pure := .done
  bind := .bind

/-- The shared state as it is now. -/
def shared : Program Shared :=
  .look .done

/-- Change the login `i`. -/
def setLogin (i : Nat) (f : Shared → Login) : Program Unit :=
  .look fun s => .change (·.setLogin i (f s)) (.done ())

/-- Write a line into the log. -/
def notice (line : Shared → Notice) : Program Unit :=
  .look fun s => .note (line s) (.done ())

/-- Go on with a value, or stop with its error. -/
def andThen {α β : Type} (p : Program (Outcome α)) (f : α → Program (Outcome β)) :
    Program (Outcome β) :=
  p.bind fun
    | .ok a => f a
    | .error e => .done (.error e)

/-- Go on with a value that needs no waiting, or stop with its error. -/
def given {α β : Type} (r : Except Schema.CodecError α) (f : α → Program (Outcome β)) :
    Program (Outcome β) :=
  match r with
  | .ok a => f a
  | .error e => .done (.error (.codec e))

/-- A program that does not panic, among those that may. -/
def returning {α : Type} (p : Program α) : Program (Completion α) :=
  p.bind fun a => .done (.returned a)

theorem bind_done {α : Type} (p : Program α) : p.bind .done = p := by
  induction p with
  | done a => rfl
  | look next ih => simp only [bind, ih]
  | change g next ih => simp only [bind, ih]
  | note line next ih => simp only [bind, ih]
  | send call next ih => simp only [bind, ih]
  | pause time next ih => simp only [bind, ih]
  | acquire login next ih => simp only [bind, ih]
  | release login next ih => simp only [bind, ih]

theorem bind_assoc {α β γ : Type} (p : Program α) (f : α → Program β) (g : β → Program γ) :
    (p.bind f).bind g = p.bind fun a => (f a).bind g := by
  induction p with
  | done a => rfl
  | look next ih => simp only [bind, ih]
  | change h next ih => simp only [bind, ih]
  | note line next ih => simp only [bind, ih]
  | send call next ih => simp only [bind, ih]
  | pause time next ih => simp only [bind, ih]
  | acquire login next ih => simp only [bind, ih]
  | release login next ih => simp only [bind, ih]

/-- Whatever is composed of programs with the property has it too. -/
structure Composes (C : ∀ {α : Type}, Program α → Prop) : Prop where
  done : ∀ {α : Type} (a : α), C (.done a)
  bind : ∀ {α β : Type} {p : Program α} {f : α → Program β},
    C p → (∀ a, C (f a)) → C (p.bind f)

namespace Composes

variable {C : ∀ {α : Type}, Program α → Prop} {α β : Type}

theorem andThen (hC : Composes C) {p : Program (Outcome α)} {f : α → Program (Outcome β)}
    (hp : C p) (hf : ∀ a, C (f a)) : C (p.andThen f) := by
  refine hC.bind hp fun r => ?_
  cases r with
  | ok a => exact hf a
  | error e => exact hC.done _

theorem returning (hC : Composes C) {p : Program α} (hp : C p) : C p.returning :=
  hC.bind hp fun a => hC.done (Completion.returned a)

theorem given (hC : Composes C) {r : Except Schema.CodecError α} {f : α → Program (Outcome β)}
    (hf : ∀ a, r = .ok a → C (f a)) : C (given r f) := by
  cases r with
  | ok a => exact hf a rfl
  | error e => exact hC.done _

end Composes

end Program

end PoolClient
