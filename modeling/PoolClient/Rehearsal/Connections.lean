import PoolClient.Http.Exchange
import PoolClient.Rehearsal.Script
/-!
# Connections

A pool may also be rehearsed as a server that takes one connection after the other and treats
each as a `Connection` says. Nobody listens after the last one, and a call that is sent over a
secure connection, or cannot be sent at all, does not use one up.
-/

namespace PoolClient.Rehearsal

/-- How the server treats a connection: it answers the request, closes the connection without
reading the request, without answering it, or in the middle of the body, or it falls silent
before the answer or in the middle of the body. -/
inductive Connection where
  | answers (status : Nat) (body : List UInt8)
  | refuses
  | closes
  | cutsBody (status : Nat)
  | hangs
  | hangsInBody (status : Nat)
  deriving DecidableEq, Repr

/-- What the caller gets, if it gets anything. A body that does not end matters only where it
would be read. -/
def Connection.reply : Connection → Option (Outcome Value)
  | .answers status body => some (Http.outcome status body)
  | .refuses => some (.error (.transport .http))
  | .closes => some (.error (.transport .http))
  | .cutsBody status =>
    some (if status = 200 then .error (.transport .http) else Http.outcome status [])
  | .hangs => none
  | .hangsInBody status => if status = 200 then none else some (Http.outcome status [])

/-- The scene that a connection plays. -/
def Connection.scene (c : Connection) : Scene :=
  ⟨⟨0⟩, [], c.reply, c != .refuses⟩

/-- A rule that treats the next call, whichever it is, as a connection. -/
def Connection.rule (c : Connection) : Rule :=
  ⟨none, none, none, some 1, c.scene⟩

/-- A server that treats one connection after the other. -/
def Server.listening (connections : List Connection) : Server :=
  ⟨connections.map Connection.rule, fun c => !c.endpoint.tls && c.requestLine?.isSome,
    fun _ => .error (.transport .http)⟩

end PoolClient.Rehearsal
