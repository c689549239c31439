import PoolClient.Session.Session
/-!
# Change notifications

`nextBatch` asks for the events since a token. The server holds the call until something
changes or the wait is over, so the call gets a deadline of its own, and panics if this deadline
cannot be held. `snapshotAs` reads the snapshot in an event as the record of the class that
changed.
-/

namespace PoolClient.Events

open Time Schema

/-- Time for the answer to arrive after the server's own wait. -/
def grace : Duration :=
  .ofSeconds 30

/-- The call that waits for events. -/
def fromSignature : Api.Signature :=
  ⟨"event.from", [⟨"classes", .list .text⟩, ⟨"token", .text⟩, ⟨"timeout", .real⟩],
    Api.Record.eventBatch⟩

/-- Wait for the next batch of events on some classes. The deadline is added up before anything else
is done, and a sum that overflows is a panic. -/
def nextBatch (h : Session) (classes : List String) (token : String) (wait : Duration) :
    Program (Completion (Outcome Datum)) :=
  match wait.add? grace with
  | none => .done .panicked
  | some deadline =>
    (Session.run { h with deadline := some deadline } fromSignature
      [.list (classes.map .text), .text token, .real wait.seconds]).returning

section

variable {h : Session} {classes : List String} {token : String} {wait deadline : Duration}

theorem nextBatch_of_none (hsum : wait.add? grace = none) :
    nextBatch h classes token wait = .done .panicked := by
  rw [nextBatch, hsum]

example : nextBatch h [] "" (.ofSeconds (UInt64.size - 1)) = .done .panicked := by
  rfl

theorem nextBatch_of_some (hsum : wait.add? grace = some deadline) :
    nextBatch h classes token wait =
      (Session.run { h with deadline := some deadline } fromSignature
        [.list (classes.map .text), .text token, .real wait.seconds]).returning := by
  rw [nextBatch, hsum]

end

/-- The snapshot of an event as a type. -/
def snapshotAs (t : WireType) (snapshot : Value) : Except CodecError Datum :=
  t.decode "eventRecord.snapshot" snapshot

end PoolClient.Events
