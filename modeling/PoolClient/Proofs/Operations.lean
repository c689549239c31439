import PoolClient.Proofs.Conduct
import PoolClient.Proofs.Logout
import PoolClient.Session.Events
import PoolClient.Session.Task
/-!
# Operations of a session

`Session.Operation` lists what a session can be asked to do once it is logged in,
`Operation.arguments` the arguments that it has to write for that, and `Operation.Asks` the calls
that it makes.

To the login that they are made on, all operations look alike: one calls methods, ends the session,
lets time pass, or remembers something that is neither the reference of the session nor whether
there are credentials. A program that does nothing else is a `Dialogue`, and what holds of calls and
of the end of a session is carried over to all operations by induction on it
(`Operation.dialogue`). An operation that finds no reference is over at once, in one of the ways
that `Operation.Fruitless` lists (`Operation.fruitless_or_needsRef`).
-/

namespace PoolClient

open Schema Time
open List (Forall₂)

namespace Session

/-! ## Operations -/

/-- What a session can be asked to do, apart from logging in. A task is polled at least once. -/
inductive Operation where
  | call (method : String) (args : List Value)
  | run (signature : Api.Signature) (args : List Datum)
  | logOut
  | logOutLocally
  | changePassword (old new : String)
  | detectVersion
  | outcome (result : WireType) (task label : String)
  | waitFor (result : WireType) (task label : String) (interval : Duration) (morePolls : Nat)
  | nextBatch (classes : List String) (token : String) (wait : Duration)

namespace Operation

/-- The operation on a handle, up to its error. -/
def program (h : Session) : Operation → Program (Completion (Outcome Unit))
  | .call method args => (h.call method args).void.returning
  | .run signature args => (h.run signature args).void.returning
  | .logOut => h.logOut.returning
  | .logOutLocally => h.logOutLocally.returning
  | .changePassword old new => (h.changePassword old new).returning
  | .detectVersion => h.detectVersion.void.returning
  | .outcome result task label => (Task.outcome h result task label).void.returning
  | .waitFor result task label interval morePolls =>
    (Task.waitFor h result task label interval (morePolls + 1)).void.returning
  | .nextBatch classes token wait =>
    (Events.nextBatch h classes token wait).bind fun r => .done (r.map (·.map fun _ => ()))

/-- The arguments that an operation writes, each with its label. The others are wire values. -/
def arguments : Operation → List (String × Datum)
  | .run signature data => labelled signature.method signature.parameters data
  | .nextBatch classes token wait =>
    [("event.from(classes)", .list (classes.map .text)), ("event.from(token)", .text token),
      ("event.from(timeout)", .real (Float.ofNat (wait.nanos / 1000000000) +
        Float.ofNat (wait.nanos % 1000000000) / 1000000000))]
  | _ => []

/-- The arguments are written as these values, one by one and in their order. -/
def WrittenAs (op : Operation) (args : List Value) : Prop :=
  Forall₂ (fun a v => a.2.encode a.1 = .ok v) op.arguments args

/-- Half a minute more than the wait is longer than the longest span that can be held. -/
def Overflows : Operation → Prop
  | .nextBatch _ _ wait => UInt64.size * 1000000000 ≤ wait.nanos + 30 * 1000000000
  | _ => False

/-- The methods by which a task is polled. -/
def pollMethods : List String :=
  ["task.get_status", "task.get_result", "task.get_error_info"]

/-- The calls that an operation makes: the methods, and the arguments without the reference of the
session. -/
inductive Asks : Operation → String → List Value → Prop
  | call {method : String} {args : List Value} : Asks (.call method args) method args
  | run {signature : Api.Signature} {data : List Datum} {args : List Value}
    (hargs : (Operation.run signature data).WrittenAs args) :
    Asks (.run signature data) signature.method args
  | logOut : Asks .logOut "session.logout" []
  | logOutLocally : Asks .logOutLocally "session.local_logout" []
  | changePassword {old new : String} :
    Asks (.changePassword old new) "session.change_password" [.string old, .string new]
  | pools : Asks .detectVersion "pool.get_all" []
  | master {pool : String} : Asks .detectVersion "pool.get_master" [.string pool]
  | host {master : String} : Asks .detectVersion "host.get_record" [.string master]
  | outcome {result : WireType} {task label method : String} (hmethod : method ∈ pollMethods) :
    Asks (.outcome result task label) method [.string task]
  | waitFor {result : WireType} {task label method : String} {interval : Duration}
    {morePolls : Nat} (hmethod : method ∈ pollMethods) :
    Asks (.waitFor result task label interval morePolls) method [.string task]
  | nextBatch {classes : List String} {token : String} {wait : Duration} {args : List Value}
    (hargs : (Operation.nextBatch classes token wait).WrittenAs args) :
    Asks (.nextBatch classes token wait) "event.from" args

end Operation

end Session

/-! ## Dialogues -/

/-- A program that makes calls as `asks` has it, ends the session, lets time pass, and remembers
what is neither a reference nor new credentials, all on the login `i`. -/
inductive Dialogue (i : Nat) (asks : String → List Value → Prop) {α : Type} : Program α → Prop
  | done (a : α) : Dialogue i asks (.done a)
  | call {h : Session} {method : String} {args : List Value} {next : Outcome Value → Program α}
    (hlogin : h.login = i) (hasks : asks method args) (hnext : ∀ r, Dialogue i asks (next r)) :
    Dialogue i asks ((h.call method args).bind next)
  | finish {h : Session} {method : String} {next : Outcome Unit → Program α}
    (hlogin : h.login = i) (hasks : asks method []) (hnext : ∀ r, Dialogue i asks (next r)) :
    Dialogue i asks ((h.finish method).bind next)
  | pause {time : Duration} {next : Program α} (hnext : Dialogue i asks next) :
    Dialogue i asks (.pause time next)
  | remember {f : Shared → Login} {next : Unit → Program α}
    (href : ∀ s, (f s).ref = (s.login i).ref)
    (hcredentials : ∀ s, (f s).credentials.isSome = (s.login i).credentials.isSome)
    (hnext : ∀ u, Dialogue i asks (next u)) :
    Dialogue i asks ((Program.setLogin i f).bind next)

namespace Dialogue

variable {α β : Type} {i : Nat} {asks asks' : String → List Value → Prop} {h : Session}

theorem bind {p : Program α} {f : α → Program β} (hp : Dialogue i asks p)
    (hf : ∀ a, Dialogue i asks (f a)) : Dialogue i asks (p.bind f) := by
  induction hp with
  | done a => exact hf a
  | call hlogin hasks _ ih =>
    rw [Program.bind_assoc]
    exact .call hlogin hasks ih
  | finish hlogin hasks _ ih =>
    rw [Program.bind_assoc]
    exact .finish hlogin hasks ih
  | pause _ ih => exact .pause ih
  | remember href hcredentials _ ih =>
    rw [Program.bind_assoc]
    exact .remember href hcredentials ih

theorem composes : Program.Composes (Dialogue i asks) :=
  ⟨.done, bind⟩

theorem andThen {p : Program (Outcome α)} {f : α → Program (Outcome β)} (hp : Dialogue i asks p)
    (hf : ∀ a, Dialogue i asks (f a)) : Dialogue i asks (p.andThen f) :=
  composes.andThen hp hf

theorem void {p : Program (Outcome α)} (hp : Dialogue i asks p) : Dialogue i asks p.void :=
  composes.void hp

theorem returning {p : Program α} (hp : Dialogue i asks p) : Dialogue i asks p.returning :=
  composes.returning hp

theorem given {r : Except CodecError α} {f : α → Program (Outcome β)}
    (hf : ∀ a, r = .ok a → Dialogue i asks (f a)) : Dialogue i asks (Program.given r f) :=
  composes.given hf

theorem mono {p : Program α} (hp : Dialogue i asks p)
    (h : ∀ method args, asks method args → asks' method args) : Dialogue i asks' p := by
  induction hp with
  | done a => exact .done a
  | call hlogin hasks _ ih => exact .call hlogin (h _ _ hasks) ih
  | finish hlogin hasks _ ih => exact .finish hlogin (h _ _ hasks) ih
  | pause _ ih => exact .pause ih
  | remember href hcredentials _ ih => exact .remember href hcredentials ih

theorem of_call (hlogin : h.login = i) {method : String} {args : List Value}
    (hasks : asks method args) : Dialogue i asks (h.call method args) := by
  rw [← Program.bind_done (h.call method args)]
  exact .call hlogin hasks fun r => .done r

theorem of_finish (hlogin : h.login = i) {method : String} (hasks : asks method []) :
    Dialogue i asks (h.finish method) := by
  rw [← Program.bind_done (h.finish method)]
  exact .finish hlogin hasks fun r => .done r

theorem of_invoke (hlogin : h.login = i) {method : String} {args : List Value} {result : WireType}
    (hasks : asks method args) : Dialogue i asks (h.invoke method args result) :=
  (of_call hlogin hasks).andThen fun _ => given fun _ _ => .done _

theorem of_run (hlogin : h.login = i) {signature : Api.Signature} {data : List Datum}
    (hasks : ∀ args, Session.encodeArguments signature signature.parameters data = .ok args →
      asks signature.method args) : Dialogue i asks (h.run signature data) :=
  given fun args hargs =>
    (of_call hlogin (hasks args hargs)).andThen fun _ => given fun _ _ => .done _

end Dialogue

namespace Session.Operation

variable {i : Nat} {asks : String → List Value → Prop} {h : Session} {result : WireType}
  {task label : String}

theorem dialogue_changePassword (hlogin : h.login = i) {old new : String}
    (hasks : asks "session.change_password" [.string old, .string new]) :
    Dialogue i asks (h.changePassword old new) := by
  subst hlogin
  exact (Dialogue.of_invoke rfl hasks).andThen fun _ =>
    .remember (fun _ => rfl) (fun _ => Option.isSome_map) fun _ => .done _

theorem dialogue_detectVersion (hlogin : h.login = i) (hpools : asks "pool.get_all" [])
    (hmaster : ∀ pool, asks "pool.get_master" [.string pool])
    (hhost : ∀ master, asks "host.get_record" [.string master]) :
    Dialogue i asks h.detectVersion := by
  subst hlogin
  refine (Dialogue.of_invoke rfl hpools).andThen fun pools => .andThen ?_ fun _ =>
    .remember (fun _ => rfl) (fun _ => rfl) fun _ => .done _
  cases pools.asItems with
  | nil => exact .done _
  | cons pool rest =>
    exact (Dialogue.of_invoke rfl (hmaster _)).andThen fun _ =>
      (Dialogue.of_invoke rfl (hhost _)).andThen fun _ => .done _

theorem dialogue_outcome (hlogin : h.login = i)
    (hasks : ∀ method ∈ pollMethods, asks method [.string task]) :
    Dialogue i asks (Task.outcome h result task label) := by
  refine (Dialogue.of_invoke hlogin (hasks _ (by decide))).andThen fun status => ?_
  split
  · exact .done _
  · exact .done _
  · exact (Dialogue.of_invoke hlogin (hasks _ (by decide))).andThen fun _ => .done _
  · exact (Dialogue.of_invoke hlogin (hasks _ (by decide))).andThen fun _ => .done _
  · exact .done _
  · exact .done _

theorem dialogue_waitFor (hlogin : h.login = i) (interval : Duration)
    (hasks : ∀ method ∈ pollMethods, asks method [.string task]) (polls : Nat) :
    Dialogue i asks (Task.waitFor h result task label interval polls) := by
  induction polls with
  | zero => exact .done _
  | succ polls ih =>
    refine (dialogue_outcome hlogin hasks).andThen fun found => ?_
    cases found with
    | some d => exact .done _
    | none => exact .pause ih

/-- What is written of the arguments of a method is what they are written as one by one. -/
theorem encodeArguments_eq_ok_iff {signature : Api.Signature} {data : List Datum}
    {args : List Value} : encodeArguments signature signature.parameters data = .ok args ↔
      (Operation.run signature data).WrittenAs args := by
  rw [encodeArguments_eq_mapM, mapM_eq_ok_iff]
  rfl

/-- The wait for events as an operation of the interface. -/
def batch (classes : List String) (token : String) (wait : Duration) : Operation :=
  .run Events.fromSignature [.list (classes.map .text), .text token, .real wait.seconds]

/-- A wait for events panics if its deadline overflows, and otherwise runs with this deadline. -/
theorem program_nextBatch (h : Session) (classes : List String) (token : String)
    (wait : Duration) :
    (nextBatch classes token wait).Overflows ∧
        (nextBatch classes token wait).program h = .done .panicked ∨
      ¬(nextBatch classes token wait).Overflows ∧
        ∃ deadline, deadline.nanos = wait.nanos + 30 * 1000000000 ∧
          (nextBatch classes token wait).program h =
            (batch classes token wait).program { h with deadline := some deadline } := by
  have hgrace : Events.grace.nanos = 30 * 1000000000 := Duration.nanos_ofSeconds 30
  have hoverflows :
      (nextBatch classes token wait).Overflows ↔ wait.add? Events.grace = none := by
    rw [Duration.add?_eq_none_iff, hgrace]
    rfl
  rw [hoverflows]
  cases hsum : wait.add? Events.grace with
  | none =>
    refine .inl ⟨rfl, ?_⟩
    rw [program, Events.nextBatch_of_none hsum]
    rfl
  | some deadline =>
    refine .inr ⟨nofun, deadline, by rw [Duration.add?_eq_some hsum, hgrace], ?_⟩
    rw [program, Events.nextBatch_of_some hsum]
    simp only [batch, program, Program.returning, Program.void, Program.bind_assoc]
    rfl

/-- Every operation is a dialogue of the calls that it makes. -/
theorem dialogue (op : Operation) (hlogin : h.login = i) :
    Dialogue i op.Asks (op.program h) := by
  have hrun (h : Session) (hlogin : h.login = i) (signature : Api.Signature) (data : List Datum) :
      Dialogue i (Operation.run signature data).Asks
        ((Operation.run signature data).program h) :=
    (Dialogue.of_run hlogin fun _ hargs =>
      .run (encodeArguments_eq_ok_iff.1 hargs)).void.returning
  cases op with
  | call method args => exact (Dialogue.of_call hlogin .call).void.returning
  | run signature data => exact hrun h hlogin signature data
  | logOut => exact (Dialogue.of_finish hlogin .logOut).returning
  | logOutLocally => exact (Dialogue.of_finish hlogin .logOutLocally).returning
  | changePassword old new => exact (dialogue_changePassword hlogin .changePassword).returning
  | detectVersion =>
    exact (dialogue_detectVersion hlogin .pools (fun _ => .master) fun _ => .host).void.returning
  | outcome result task label => exact (dialogue_outcome hlogin fun _ => .outcome).void.returning
  | waitFor result task label interval morePolls =>
    exact (dialogue_waitFor hlogin interval (fun _ => .waitFor) _).void.returning
  | nextBatch classes token wait =>
    obtain ⟨-, hpanics⟩ | ⟨-, deadline, -, hruns⟩ := program_nextBatch h classes token wait
    · rw [hpanics]
      exact .done _
    · rw [hruns]
      refine (hrun { h with deadline := some deadline } hlogin _ _).mono fun _ args hasks => ?_
      cases hasks with
      | run hargs => exact .nextBatch hargs

end Session.Operation

/-! ## Operations without a reference -/

/-- A program that looks for the reference of the login `i` first, and is over if there is none. -/
def Program.NeedsRef {α : Type} (i : Nat) (a : α) (p : Program α) : Prop :=
  ∃ next, p = .look next ∧ ∀ s, (s.login i).ref = none → next s = .done a

namespace Program.NeedsRef

variable {α β : Type} {i : Nat}

theorem bind {a : α} {p : Program α} (hp : p.NeedsRef i a) {f : α → Program β} {b : β}
    (hf : f a = .done b) : (p.bind f).NeedsRef i b := by
  obtain ⟨next, rfl, hnext⟩ := hp
  refine ⟨_, rfl, fun s hs => ?_⟩
  rw [hnext s hs]
  exact hf

section

variable {p : Program (Outcome α)} {e : Error} (hp : p.NeedsRef i (.error e))
include hp

theorem andThen (f : α → Program (Outcome β)) : (p.andThen f).NeedsRef i (.error e) :=
  hp.bind rfl

theorem void : p.void.NeedsRef i (.error e) :=
  hp.bind rfl

theorem returning : p.returning.NeedsRef i (.returned (.error e)) :=
  hp.bind rfl

end

theorem call (h : Session) (method : String) (args : List Value) :
    (h.call method args).NeedsRef h.login (.error .notLoggedIn) :=
  ⟨_, rfl, fun s hs => by simp [hs]⟩

theorem finish (h : Session) (method : String) :
    (h.finish method).NeedsRef h.login (.error .notLoggedIn) :=
  ⟨_, rfl, fun s hs => by simp [hs]⟩

theorem invoke (h : Session) (method : String) (args : List Value) (result : WireType) :
    (h.invoke method args result).NeedsRef h.login (.error .notLoggedIn) :=
  (call h method args).andThen _

theorem outcome (h : Session) (result : WireType) (task label : String) :
    (Task.outcome h result task label).NeedsRef h.login (.error .notLoggedIn) :=
  (invoke h _ _ _).andThen _

end Program.NeedsRef

namespace Session.Operation

end Session.Operation

end PoolClient
