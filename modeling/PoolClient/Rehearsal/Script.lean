import PoolClient.Session.Events
import PoolClient.Session.Task
/-!
# Scripts

A rehearsal runs operations against a pool that answers by a script. An `Action` is what a step
does, and a `Step` names the session it does it on. A `Rule` of the script says which calls it
answers, how often, and by which `Scene`: a delay, steps that run meanwhile, and the reply.
-/

namespace PoolClient.Rehearsal

open Time Schema

/-- What a step of a rehearsal does. -/
inductive Action where
  | logIn (credentials : Credentials)
  | logInLocally (username password : String)
  | logOut
  | logOutLocally
  | call (method : String) (args : List Value)
  | clientCall (method : String) (params : List Value)
  | clientCallWithin (deadline : Option Duration) (method : String) (params : List Value)
  | hostCall (deadline : Option Duration) (method : String) (params : List Value)
  | directCall (call : Call)
  | operation (signature : Api.Signature) (args : List Datum)
  | changePassword (old new : String)
  | detectVersion
  | outcome (type : WireType) (task label : String)
  | waitFor (type : WireType) (task label : String) (interval : Duration)
  | nextBatch (classes : List String) (token : String) (wait : Duration)
  | describe
  | withDeadline (deadline : Duration) (name : String)
  | copy (name : String)
  | share (name : String)
  | resume (ref name : String)
  | together (steps : List (Nat × String × Action))

/-- An action, on the session with the given name. -/
structure Step where
  session : String
  action : Action

/-- How a call is answered: after a delay, and once some steps have run. A scene without a reply
leaves the caller waiting for ever. -/
structure Scene where
  delay : Duration
  during : List Step
  reply : Option (Outcome Value)
  readsRequest : Bool

/-- A rule of the script: which calls it takes, and how many more of them. -/
structure Rule where
  host : Option String
  method : Option String
  firstArgument : Option String
  times : Option Nat
  scene : Scene

/-- A pool that answers by a script. Some calls do not reach it, and some find no rule. -/
structure Server where
  rules : List Rule
  reaches : Call → Bool
  otherwise : Call → Outcome Value

/-- Whether a condition is met, if there is one. -/
def meets (condition : Option String) (value : Option String) : Bool :=
  condition.isNone || condition == value

/-- Whether a rule takes a call. -/
def Rule.takes (r : Rule) (c : Call) : Bool :=
  r.times != some 0 && meets r.host (some c.endpoint.host) && meets r.method (some c.method) &&
    meets r.firstArgument (c.params.head?.bind Value.text?)

/-- The rule after it was taken once more. -/
def Rule.taken (r : Rule) : Rule :=
  { r with times := r.times.map (· - 1) }

/-- The scene of the first rule that takes a call, and the rules afterwards. -/
def takeRule (c : Call) : List Rule → Option (Scene × List Rule)
  | [] => none
  | r :: rest =>
    if r.takes c then some (r.scene, r.taken :: rest)
    else (takeRule c rest).map fun (scene, rest) => (scene, r :: rest)

/-- The scene that answers a call, and the pool afterwards. -/
def Server.answer (s : Server) (c : Call) : Scene × Server :=
  match (if s.reaches c then takeRule c s.rules else none) with
  | some (scene, rules) => (scene, { s with rules })
  | none => (⟨⟨0⟩, [], some (s.otherwise c), false⟩, s)

/-- A pool with a script, which knows no other method. -/
def Server.scripted (rules : List Rule) : Server :=
  ⟨rules, fun _ => true, fun c => .error (.server (.new Api.methodUnknown [c.method]))⟩

end PoolClient.Rehearsal
