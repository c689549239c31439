import PoolClient.Rehearsal.Portrait
/-!
# Running a rehearsal

Time is virtual: it stands still while anything can go on, and then jumps to the next moment at
which something is due. `advance` lets an activity go on until it waits, and goes through the
members of a group in their order. `play` repeats this until the activity is over, and
`perform` runs the steps of a rehearsal one after the other and reports on each. Every function
takes a bound on its steps; a rehearsal that ends does so within any large enough bound.
-/

namespace PoolClient.Rehearsal

open Time Schema

/-! ## Beginning a step -/

/-- The program of an action on a session. A task is polled at most `polls` times. -/
def program (polls : Nat) (h : Session) (client : Client) : Action → Play
  | .logIn c => finish .reference (h.logIn c)
  | .logInLocally username password => finish .reference (h.logInLocally username password)
  | .logOut => finish (fun _ => .nothing) h.logOut
  | .logOutLocally => finish (fun _ => .nothing) h.logOutLocally
  | .call method args => finish .wire (h.call method args)
  | .clientCall method params => finish .wire (callPool method params client.deadline)
  | .clientCallWithin deadline method params => finish .wire (callPool method params deadline)
  | .hostCall deadline method params => finish .wire (callHost method params deadline)
  | .directCall call => finish .wire (.send call .done)
  | .operation signature args => finish .datum (h.run signature args)
  | .changePassword old new => finish (fun _ => .nothing) (h.changePassword old new)
  | .detectVersion => finish .version h.detectVersion
  | .outcome type task label => finish ofPoll (Task.outcome h type task label)
  | .waitFor type task label interval =>
    finish ofPoll (Task.waitFor h type task label interval polls)
  | .nextBatch classes token wait =>
    (Events.nextBatch h classes token wait).bind fun r => .done (r.map (·.map .datum))
  | _ => .done (.returned (.ok .nothing))
where
  /-- The result of a program as that of a step. -/
  finish {α : Type} (f : α → Result) (p : Program (Outcome α)) : Play :=
    p.bind fun r => .done (.returned (r.map f))
  /-- The result of polling a task. -/
  ofPoll : Option Datum → Result
    | some d => .datum d
    | none => .unfinished

/-- Begin a step. Steps that only make a handle are over at once. -/
def Stage.begin (polls : Nat) (s : Stage) (step : Step) : Activity × Stage :=
  let h := s.session step.session
  let ended (s : Stage) (r : Result) : Activity × Stage := (.over (.ok r), s)
  match step.action with
  | .withDeadline deadline name =>
    ended (s.setSession name { h with deadline := some deadline }) .nothing
  | .copy name => ended (s.setSession name h) .nothing
  | .share name =>
    let made : Session := ⟨s.logins, s.shared.client.deadline⟩
    ended { s.setSession name made with logins := s.logins + 1 } .nothing
  | .resume ref name =>
    let made : Session := ⟨s.logins, s.shared.client.deadline⟩
    let login := { Login.fresh with ref := some ref, generation := s.shared.client.generation }
    ended { s.setSession name made with
      logins := s.logins + 1, shared := s.shared.setLogin s.logins login } .nothing
  | .describe =>
    ended s (.portrait (sessionPortrait s.shared h) (clientPortrait s.shared.client)
      (poolPortrait s.answered))
  | .together steps =>
    (.group s.now (steps.map fun (wait, session, action) =>
      (session, .due (s.now + wait) ⟨session, action⟩, none)), s)
  | action =>
    (.running s.nextId (program polls h s.shared.client action),
      { s with nextId := s.nextId + 1 })

/-- A call reaches the pool. -/
def Stage.arrive (s : Stage) (id : Nat) (call : Call) (next : Outcome Value → Play) :
    Activity × Stage :=
  let (scene, server) := s.server.answer call
  let s := { s with
    server, calls := call :: s.calls,
    received := if scene.readsRequest then call :: s.received else s.received }
  (.travelling (s.now + scene.delay.millis) id call
    (call.deadline.map (s.now + ·.millis)) scene next, s)

/-! ## Going on -/

/-- Whether a moment has come. -/
def Stage.isPast (s : Stage) : Option Nat → Bool
  | some t => t ≤ s.now
  | none => false

/-- The failure of a call that was not answered in time. -/
def Call.late (c : Call) : Outcome Value :=
  .error (.transport (.timeout c.method (c.deadline.getD ⟨0⟩)))

mutual

/-- The numbers of all programs in an activity. -/
def Activity.ids : Activity → List Nat
  | .over _ | .panicked => []
  | .due _ _ => []
  | .running id _ => [id]
  | .sleeping _ id _ => [id]
  | .queueing _ id _ => [id]
  | .travelling _ id _ _ _ _ => [id]
  | .playing id _ _ _ current _ _ => id :: current.ids
  | .group _ members => memberIds members

/-- The numbers of all programs in the members of a group. -/
def memberIds : List (String × Activity × Option (View × Nat)) → List Nat
  | [] => []
  | (_, a, _) :: rest => a.ids ++ memberIds rest

end

/-- Give up an activity. What it held is free, and what it asked for is not asked for. -/
def Stage.abandon (s : Stage) (a : Activity) : Stage :=
  a.ids.foldl Stage.dequeue s

mutual

/-- Let an activity go on until it waits. -/
def advance (polls : Nat) : Nat → Activity → Stage → Activity × Stage
  | 0, a, s => (a, s)
  | _ + 1, .over r, s => (.over r, s)
  | _ + 1, .panicked, s => (.panicked, s)
  | n + 1, .due time step, s =>
    if time ≤ s.now then
      let (a, s) := s.begin polls step
      advance polls n a s
    else (.due time step, s)
  | n + 1, .sleeping wake id p, s =>
    if wake ≤ s.now then advance polls n (.running id p) s else (.sleeping wake id p, s)
  | n + 1, .queueing login id p, s =>
    if s.hasTurn login id then advance polls n (.running id p) s else (.queueing login id p, s)
  | n + 1, .running id p, s =>
    match p with
    | .done (.returned r) => (.over r, s)
    | .done .panicked => (.panicked, s)
    | .look next => advance polls n (.running id (next s.shared)) s
    | .change f next => advance polls n (.running id next) { s with shared := f s.shared }
    | .note line next => advance polls n (.running id next) { s with notices := line :: s.notices }
    | .send call next =>
      let (a, s) := s.arrive id call next
      advance polls n a s
    | .pause time next => advance polls n (.sleeping (s.now + time.millis) id next) s
    | .acquire login next => advance polls n (.queueing login id next) (s.enqueue login id)
    | .release _ next => advance polls n (.running id next) (s.dequeue id)
  | n + 1, .travelling arrival id call deadline scene next, s =>
    if arrival ≤ s.now then
      match scene.during, scene.reply with
      | step :: later, _ =>
        let (a, s) := s.begin polls step
        advance polls n
          (.playing id call deadline step.session a { scene with during := later } next) s
      | [], some reply =>
        advance polls n (.running id (next reply)) { s with answered := s.answered + 1 }
      | [], none =>
        if s.isPast deadline then advance polls n (.running id (next (Call.late call))) s
        else (.travelling arrival id call deadline scene next, s)
    else if s.isPast deadline then advance polls n (.running id (next (Call.late call))) s
    else (.travelling arrival id call deadline scene next, s)
  | n + 1, .playing id call deadline session current scene next, s =>
    match advance polls n current s with
    | (.over r, s) =>
      advance polls n (.travelling s.now id call deadline scene next)
        { s with asides := (r, s.view session) :: s.asides }
    | (a, s) =>
      if s.isPast deadline then
        advance polls n (.running id (next (Call.late call))) (s.abandon a)
      else (.playing id call deadline session a scene next, s)
  | n + 1, .group start members, s =>
    let (members, s) := advanceMembers polls n start members s
    match allEnded members with
    | some results => (.over (.ok (.each results)), s)
    | none => (.group start members, s)

/-- Let the members of a group go on, in their order. -/
def advanceMembers (polls : Nat) : Nat → Nat →
    List (String × Activity × Option (View × Nat)) → Stage →
    List (String × Activity × Option (View × Nat)) × Stage
  | 0, _, members, s => (members, s)
  | _ + 1, _, [], s => ([], s)
  | n + 1, start, (session, a, some ending) :: rest, s =>
    let (rest, s) := advanceMembers polls n start rest s
    ((session, a, some ending) :: rest, s)
  | n + 1, start, (session, a, none) :: rest, s =>
    match advance polls n a s with
    | (.over r, s) =>
      let ending := (s.view session, s.now - start)
      let (rest, s) := advanceMembers polls n start rest s
      ((session, .over r, some ending) :: rest, s)
    | (a, s) =>
      let (rest, s) := advanceMembers polls n start rest s
      ((session, a, none) :: rest, s)

/-- What the members of a group ended with, once all have ended. -/
def allEnded : List (String × Activity × Option (View × Nat)) →
    Option (List (Except Error Result × View × Nat))
  | [] => some []
  | (_, .over r, some (view, time)) :: rest => (allEnded rest).map ((r, view, time) :: ·)
  | _ :: _ => none

end

/-! ## Waiting -/

/-- The earlier of two moments, where there are any. -/
def earlier : Option Nat → Option Nat → Option Nat
  | some a, some b => some (min a b)
  | some a, none => some a
  | none, b => b

mutual

/-- Whether an activity could go on now. -/
def Activity.isReady (s : Stage) : Activity → Bool
  | .over _ | .panicked => false
  | .due time _ => time ≤ s.now
  | .running _ _ => true
  | .sleeping wake _ _ => wake ≤ s.now
  | .queueing login id _ => s.hasTurn login id
  | .travelling arrival _ _ deadline scene _ =>
    (arrival ≤ s.now && (!scene.during.isEmpty || scene.reply.isSome)) || s.isPast deadline
  | .playing _ _ deadline _ current _ _ => current.isReady s || s.isPast deadline
  | .group _ members => anyReady s members

/-- Whether a member of a group could go on now. -/
def anyReady (s : Stage) : List (String × Activity × Option (View × Nat)) → Bool
  | [] => false
  | (_, a, _) :: rest => a.isReady s || anyReady s rest

end

/-- A moment that is still to come. -/
def Stage.future (s : Stage) (t : Nat) : Option Nat :=
  if s.now < t then some t else none

mutual

/-- The next moment at which something in an activity is due. -/
def Activity.nextMoment (s : Stage) : Activity → Option Nat
  | .over _ | .panicked => none
  | .due time _ => s.future time
  | .running _ _ => none
  | .sleeping wake _ _ => s.future wake
  | .queueing _ _ _ => none
  | .travelling arrival _ _ deadline _ _ =>
    earlier (s.future arrival) (deadline.bind s.future)
  | .playing _ _ deadline _ current _ _ => earlier (current.nextMoment s) (deadline.bind s.future)
  | .group _ members => nextOfMembers s members

/-- The next moment at which something in a group is due. -/
def nextOfMembers (s : Stage) : List (String × Activity × Option (View × Nat)) → Option Nat
  | [] => none
  | (_, a, _) :: rest => earlier (a.nextMoment s) (nextOfMembers s rest)

end

/-- Run an activity to its end, in at most `bound` rounds. -/
def play (bound : Nat) : Nat → Activity → Stage → Activity × Stage
  | 0, a, s => (a, s)
  | rounds + 1, a, s =>
    if a.isReady s then
      let (a, s) := advance bound bound a s
      play bound rounds a s
    else
      match a.nextMoment s with
      | some t => play bound rounds a { s with now := t }
      | none => (a, s)

/-! ## Performing -/

/-- What is reported about a step. A step without a result never ended, or panicked. -/
structure Report where
  result : Option (Outcome Result)
  view : View
  calls : List Call
  elapsed : Nat
  asides : List (Outcome Result × View)
  notices : List Notice

/-- Run one step and report on it. -/
def performStep (bound : Nat) (s : Stage) (step : Step) : Report × Stage :=
  let s := { s with calls := [], asides := [], notices := [] }
  let (a, later) := play bound bound (.due s.now step) s
  let result := match a with
    | .over r => some r
    | _ => none
  (⟨result, later.view step.session, later.calls.reverse, later.now - s.now,
    later.asides.reverse, later.notices.reverse⟩, later)

/-- Run steps one after the other and report on each. -/
def perform (bound : Nat) : Stage → List Step → List Report × Stage
  | s, [] => ([], s)
  | s, step :: rest =>
    let (report, s) := performStep bound s step
    let (reports, s) := perform bound s rest
    (report :: reports, s)

end PoolClient.Rehearsal
