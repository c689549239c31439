import PoolClient.Session.Program
/-!
# Calls to a pool

A pool has one master, and the other hosts refuse calls and name it. `callPool` follows such an
answer once: it moves the active endpoint to the master, unless another call has moved it
already, and sends the call again. `callHost` sends a call to the active endpoint and nowhere
else.
-/

namespace PoolClient

open Time

/-- The master that a refusal names, if the answer is such a refusal. -/
def redirectTarget? : Outcome Value → Option String
  | .error (.server e) =>
    if e.code = Api.hostIsSlave then
      match e.params with
      | master :: _ => if master.isEmpty then none else some master
      | [] => none
    else none
  | _ => none

/-- The answer of the second host. A second refusal is an error of its own. -/
def secondAnswer (master : String) : Outcome Value → Outcome Value
  | .error (.server e) =>
    if e.code = Api.hostIsSlave then
      .error (.transport (.tooManyRedirects (e.params.head?.getD master)))
    else .error (.server e)
  | r => r

/-- The client with its active endpoint moved, if it is still the one a call was sent to. -/
def Client.redirect (c : Client) (source target : Endpoint) : Client :=
  if c.endpoint = source then { c with endpoint := target, generation := c.generation + 1 } else c

/-- Move the active endpoint, and say so if it moved. -/
def redirect (source target : Endpoint) : Program Unit :=
  .look fun s =>
    if s.client.endpoint = source then
      .note (.redirected source.host target.host) <|
        .change (fun s => { s with client := s.client.redirect source target }) (.done ())
    else .done ()

/-- Call a method, following at most one refusal. -/
def callPool (method : String) (params : List Value) (deadline : Option Duration) :
    Program (Outcome Value) :=
  .look fun s =>
    let source := s.client.endpoint
    .send ⟨source, method, params, deadline⟩ fun first =>
      match redirectTarget? first with
      | none => .done first
      | some master =>
        let target := source.withHost master
        (redirect source target).bind fun _ =>
          .send ⟨target, method, params, deadline⟩ fun second =>
            .done (secondAnswer master second)

/-- Call a method on the active endpoint and nowhere else. -/
def callHost (method : String) (params : List Value) (deadline : Option Duration) :
    Program (Outcome Value) :=
  .look fun s => .send ⟨s.client.endpoint, method, params, deadline⟩ .done

end PoolClient
