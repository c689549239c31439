import PoolClient.Rehearsal.Script
/-!
# The stage

A `Stage` is the whole state of a rehearsal: what programs share, the virtual clock, the
scripted pool, the named sessions, who waits for the right to log in again, and a record of
what happened. An `Activity` is a step that has begun, as far as it has come, and `Result` is
what it ends with.
-/

namespace PoolClient.Rehearsal

open Time Schema

/-- What can be seen of a session. -/
structure View where
  ref : Option String
  url : String
  generation : Nat
  deadline : Option Duration
  apiVersion : Option ApiVersion
  softwareVersion : Option String
  deriving Repr

/-- What a step ends with. -/
inductive Result where
  | nothing
  | reference (id : String)
  | wire (v : Value)
  | datum (d : Datum)
  | version (v : ApiVersion)
  | unfinished
  | portrait (session client transport : String)
  | each (members : List (Except Error Result × View × Nat))

/-- A step as a program. -/
abbrev Play := Program (Completion (Outcome Result))

/-- A step that has begun. Every program carries a number of its own, by which it waits for the
right to log in again. One that has panicked does not go on and has no result. -/
inductive Activity where
  | over (result : Outcome Result)
  | panicked
  | due (time : Nat) (step : Step)
  | running (id : Nat) (program : Play)
  | sleeping (wake id : Nat) (program : Play)
  | queueing (login id : Nat) (program : Play)
  | travelling (arrival id : Nat) (call : Call) (deadline : Option Nat) (scene : Scene)
      (next : Outcome Value → Play)
  | playing (id : Nat) (call : Call) (deadline : Option Nat) (session : String)
      (current : Activity) (scene : Scene) (next : Outcome Value → Play)
  | group (start : Nat) (members : List (String × Activity × Option (View × Nat)))

/-- The whole state of a rehearsal. Records are kept with the last entry first. -/
structure Stage where
  shared : Shared
  now : Nat
  server : Server
  sessions : List (String × Session)
  logins : Nat
  queue : List (Nat × Nat)
  nextId : Nat
  answered : Nat
  calls : List Call
  received : List Call
  notices : List Notice
  asides : List (Outcome Result × View)

namespace Stage

/-- The first login, over which every other session is made. -/
def mainSession (s : Stage) : Session :=
  ⟨0, s.shared.client.deadline⟩

/-- A stage with a pool and a first session over a client, called `main`. -/
def ofShared (shared : Shared) (server : Server) : Stage where
  shared
  now := 0
  server
  sessions := [("main", ⟨0, shared.client.deadline⟩)]
  logins := 1
  queue := []
  nextId := 0
  answered := 0
  calls := []
  received := []
  notices := []
  asides := []

/-- A stage with a pool and a session over a new client. -/
def initial (endpoint : Endpoint) (deadline : Option Duration) (server : Server) : Stage :=
  ofShared (.initial endpoint deadline) server

/-- The session with the given name. -/
def session (s : Stage) (name : String) : Session :=
  (s.sessions.lookup name).getD s.mainSession

/-- Give a session a name. -/
def setSession (s : Stage) (name : String) (h : Session) : Stage :=
  { s with sessions := (name, h) :: s.sessions }

/-- What can be seen of a session now. -/
def view (s : Stage) (name : String) : View :=
  let h := s.session name
  let l := s.shared.login h.login
  ⟨l.ref, s.shared.client.endpoint.url, s.shared.client.generation, h.deadline, l.apiVersion,
    l.softwareVersion⟩

/-! ## The right to log in again -/

/-- Ask for the right, after all who have asked before. -/
def enqueue (s : Stage) (login id : Nat) : Stage :=
  { s with queue := s.queue ++ [(login, id)] }

/-- Whether a program has the right: it is the first of those who ask for this login. -/
def hasTurn (s : Stage) (login id : Nat) : Bool :=
  s.queue.find? (·.1 == login) == some (login, id)

/-- Give the right back, or stop asking for it. -/
def dequeue (s : Stage) (id : Nat) : Stage :=
  { s with queue := s.queue.filter (·.2 != id) }

end Stage

end PoolClient.Rehearsal
