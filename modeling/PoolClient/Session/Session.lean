import PoolClient.Api.Operation
import PoolClient.Schema.Decode
import PoolClient.Schema.Encode
import PoolClient.Session.Dispatch
/-!
# Sessions

A `Session` is a handle on a login, with a deadline for its calls; several handles may share
one login. `Session.call` sends the session reference in front of the arguments. If the server
does not know the session because the master has moved since the login, the session logs in
again with the credentials it remembers and the call is sent once more. Only one caller at a
time logs in again, and the others take up what it got.
-/

namespace PoolClient

open Time Schema

/-- A handle on a login. -/
structure Session where
  login : Nat
  deadline : Option Duration
  deriving DecidableEq, Repr, Inhabited

/-- The version sent at a login that has no better one. -/
def clientVersion : String :=
  "1.0"

/-- The originator sent at a login that has no better one. -/
def defaultOriginator : String :=
  "xenapi-client"

/-- The credentials of a login that leaves its originator open. -/
def Credentials.ofUser (username password : String) (originator : Option String) : Credentials :=
  ⟨username, password, clientVersion, originator.getD defaultOriginator⟩

/-- A reference, as the result of a call. -/
def referenceOf (label : String) (v : Value) : Except CodecError String :=
  (WireType.decode (.reference "session") label v).map Datum.asText

namespace Session

/-! ## Logging in -/

/-- The parameters of a password login. -/
def loginParams (c : Credentials) : List Value :=
  [.string c.username, .string c.password, .string c.version, .string c.originator]

/-- Log in with a password. A host that is not the master names it, and the login follows. -/
def logIn (h : Session) (c : Credentials) : Program (Outcome String) :=
  (callPool "session.login_with_password" (loginParams c) h.deadline).andThen fun result =>
    .given (referenceOf "session.login_with_password -> " result) fun ref => do
      .notice fun s => .loggedIn s.client.endpoint c.originator c.username
      .setLogin h.login fun s =>
        { s.login h.login with
          ref := some ref, generation := s.client.generation, credentials := some c }
      return .ok ref

/-- Log in to the active host, whether it is the master or not. -/
def logInLocally (h : Session) (username password : String) : Program (Outcome String) :=
  let method := "session.slave_local_login_with_password"
  (callHost method [.string username, .string password] h.deadline).andThen fun result =>
    .given (referenceOf (method ++ " -> ") result) fun ref => do
      .notice fun s => .loggedInLocally s.client.endpoint username
      .setLogin h.login fun s =>
        { s.login h.login with
          ref := some ref, generation := s.client.generation, credentials := none }
      return .ok ref

/-- Log in again, unless someone else has done so since the login of `generation`. -/
def logInAgain (h : Session) (generation : Nat) : Program (Outcome String) :=
  .acquire h.login <| .look fun s =>
    let l := s.login h.login
    match (if l.generation ≠ generation then l.ref else none) with
    | some ref => .release h.login (.done (.ok ref))
    | none =>
      match l.credentials with
      | none => .release h.login (.done (.error .notLoggedIn))
      | some c =>
        .note (.loggingInAgain s.client.endpoint c.username) <|
          (h.logIn c).bind fun r => .release h.login (.done r)

/-! ## Calls -/

/-- Whether a failed call is worth another login: the server does not know the session, the
master has moved since the login of `generation`, and there are credentials. -/
def worthLoggingIn (h : Session) (generation : Nat) (s : Shared) : Outcome Value → Bool
  | .error e =>
    e.isServerCode Api.sessionInvalid && s.client.generation != generation &&
      (s.login h.login).credentials.isSome
  | .ok _ => false

/-- Call a method, with the session reference in front of the arguments. -/
def call (h : Session) (method : String) (args : List Value) : Program (Outcome Value) :=
  .look fun s =>
    let l := s.login h.login
    match l.ref with
    | none => .done (.error .notLoggedIn)
    | some ref =>
      (callPool method (.string ref :: args) h.deadline).bind fun first =>
        .look fun s =>
          if h.worthLoggingIn l.generation s first then
            (h.logInAgain l.generation).andThen fun ref =>
              callPool method (.string ref :: args) h.deadline
          else .done first

/-- Call a method and read its result as a type. -/
def invoke (h : Session) (method : String) (args : List Value) (result : WireType) :
    Program (Outcome Datum) :=
  (h.call method args).andThen fun v =>
    .given (result.decode (method ++ " -> ") v) fun d => .done (.ok d)

/-- The arguments of an operation as wire values, up to the first that cannot be written. -/
def encodeArguments (s : Api.Signature) :
    List Api.Parameter → List Datum → Except CodecError (List Value)
  | p :: ps, d :: ds =>
    match d.encode (s.argumentLabel p) with
    | .error e => .error e
    | .ok v => (encodeArguments s ps ds).map (v :: ·)
  | _, _ => .ok []

/-- Run an operation of the interface. Nothing is sent unless all arguments can be written. -/
def run (h : Session) (s : Api.Signature) (args : List Datum) : Program (Outcome Datum) :=
  .given (encodeArguments s s.parameters args) fun vs =>
    (h.call s.method vs).andThen fun v =>
      .given (s.result.decode s.resultLabel v) fun d => .done (.ok d)

/-! ## Logging out -/

/-- End the session. The handle is unusable afterwards, even if the server reports an error. -/
def finish (h : Session) (method : String) : Program (Outcome Unit) :=
  .look fun s =>
    match (s.login h.login).ref with
    | none => .done (.error .notLoggedIn)
    | some ref =>
      (callPool method [.string ref] h.deadline).bind fun result => do
        .setLogin h.login fun s => { s.login h.login with ref := none, credentials := none }
        .notice fun s => .loggedOut s.client.endpoint
        match result with
        | .error e => return .error e
        | .ok v =>
          match WireType.decode .nothing (method ++ " -> ") v with
          | .ok _ => return .ok ()
          | .error e => return .error (.codec e)

/-- Log out. -/
def logOut (h : Session) : Program (Outcome Unit) :=
  h.finish "session.logout"

/-- Log out of a session that is local to a host. -/
def logOutLocally (h : Session) : Program (Outcome Unit) :=
  h.finish "session.local_logout"

/-! ## Password and version -/

/-- Change the password, and keep logging in again working with the new one. -/
def changePassword (h : Session) (old new : String) : Program (Outcome Unit) :=
  (h.invoke "session.change_password" [.string old, .string new] .nothing).andThen fun _ => do
    .setLogin h.login fun s =>
      let l := s.login h.login
      { l with credentials := l.credentials.map fun c => { c with password := new } }
    return .ok ()

/-- The version that the record of the master's host tells, and that of its software. -/
def versionOf (host : Datum) : ApiVersion × Option String :=
  let number (name : String) : Int :=
    ((host.field? name).getD (.integer 0)).asInteger.toInt
  let software := ((host.field? "software_version").getD (.map [])).asEntries
  (.ofNumbers (number "API_version_major") (number "API_version_minor"),
    (software.find? (·.1.asText == "xapi")).map (·.2.asText))

/-- Ask the master for its version, and remember it. -/
def detectVersion (h : Session) : Program (Outcome ApiVersion) :=
  (h.invoke "pool.get_all" [] (.list (.reference Api.Class.pool))).andThen fun pools =>
    let found : Program (Outcome (ApiVersion × Option String)) :=
      match pools.asItems with
      | [] => .done (.ok (.unknown, none))
      | pool :: _ =>
        (h.invoke "pool.get_master" [.string pool.asText] (.reference Api.Class.host)).andThen
          fun master =>
            (h.invoke "host.get_record" [.string master.asText] Api.Record.host).andThen
              fun host => .done (.ok (versionOf host))
    found.andThen fun (version, software) => do
      .setLogin h.login fun s =>
        { s.login h.login with apiVersion := some version, softwareVersion := software }
      return .ok version

end Session

end PoolClient
