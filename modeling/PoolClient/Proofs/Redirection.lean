import PoolClient.Proofs.Interleaving
/-!
# Redirects among other calls

A call to the pool is sent to the active endpoint, and once more if the answer names a master
(`followUp`). In between, other calls may move the active endpoint. `System.moves` lists where the
turns of a run move it.

A refused call moves the active endpoint if nobody has moved it since the call was sent, or if the
last move has brought it back to where the call was sent to; otherwise the call leaves it where it
is (`client_of_refusal`).
-/

namespace PoolClient

open Time

/-! ## The turns of a call -/

/-- A call to another host. -/
def Call.toMaster (call : Call) (master : String) : Call :=
  { call with endpoint := call.endpoint.withHost master }

/-- What a call to the pool does with the answer to its first attempt. -/
def followUp (first : Call) (answer : Outcome Value) : Program (Outcome Value) :=
  match redirectTarget? answer with
  | none => .done answer
  | some master =>
    (redirect first.endpoint (first.toMaster master).endpoint).bind fun _ =>
      .send (first.toMaster master) fun second => .done (secondAnswer master second)

/-- The second host's result is the result of the call. -/
theorem secondAnswer_eq_ok_iff {master : String} {r : Outcome Value} {v : Value} :
    secondAnswer master r = .ok v ↔ r = .ok v := by
  unfold secondAnswer
  split
  · split <;> simp
  · rfl

theorem callPool_eq (method : String) (params : List Value) (deadline : Option Duration) :
    callPool method params deadline = .look fun s =>
      let first : Call := ⟨s.client.endpoint, method, params, deadline⟩
      .send first (followUp first) :=
  rfl

namespace Program

variable {α : Type} {id : Nat} {w : World} {call : Call} {r : Outcome Value} {master : String}
  {k : Outcome Value → Program α}

theorem settle_redirect (source target : Endpoint) (next : Unit → Program α) :
    ((redirect source target).bind next).settle id w =
      (next ()).settle id (w.redirect source target) := by
  have hlook : ((redirect source target).bind next).settle id w =
      ((if w.shared.client.endpoint = source then
          (.note (.redirected source.host target.host) <|
            .change (fun s => { s with client := s.client.redirect source target }) (.done ()) :
            Program Unit)
        else .done ()).bind next).settle id w := rfl
  rw [hlook]
  split
  · rfl
  · rename_i h
    rw [World.redirect_of_ne h]
    rfl

/-- An answer that names no master is the answer to the call. -/
theorem settle_followUp_of_none (h : redirectTarget? r = none) :
    ((followUp call r).bind k).settle id w = (k r).settle id w := by
  rw [followUp, h]
  rfl

/-- After an answer that names a master, the call is sent there. -/
theorem settle_followUp_of_some (h : redirectTarget? r = some master) :
    ((followUp call r).bind k).settle id w =
      (.awaiting (call.toMaster master) fun second => k (secondAnswer master second),
        (w.redirect call.endpoint (call.toMaster master).endpoint).record
          (.sent id (call.toMaster master))) := by
  rw [followUp, h]
  dsimp only
  rw [bind_assoc, settle_redirect]
  rfl

end Program

namespace System

variable {α : Type} {s s' : System α} {c : Choice} {cs : List Choice}

/-- A program that gets its answer goes on with it. -/
theorem step_awaiting {id : Nat} {call : Call} {next : Outcome Value → Program α}
    (hstand : s.stands id = .awaiting call next) (r : Outcome Value) :
    s.step (.answer id r) =
      some (s.place id ((next r).settle id (s.world.record (.answered id call r)))) := by
  simp only [step, entry, hstand]
  rfl

/-! ## Moves of the active endpoint -/

/-- The endpoints to which the turns of a run move the active one, in their order. -/
def moves (s : System α) : List Choice → List Endpoint
  | [] => []
  | c :: cs =>
    match s.step c with
    | none => []
    | some s' =>
      if s'.world.shared.client = s.world.shared.client then s'.moves cs
      else s'.world.shared.client.endpoint :: s'.moves cs

/-- The last move of a run tells where the active endpoint is. -/
theorem endpoint_of_run (hr : s.run cs = some s') :
    s'.world.shared.client.endpoint =
      (s.moves cs).getLast?.getD s.world.shared.client.endpoint := by
  induction cs generalizing s with
  | nil =>
    cases hr
    rfl
  | cons c cs ih =>
    rw [run_cons] at hr
    obtain ⟨s₁, hs, hr⟩ := Option.bind_eq_some_iff.1 hr
    simp only [moves, hs]
    split
    · rename_i hsame
      rw [ih hr, hsame]
    · rw [ih hr, List.getLast?_cons]
      rfl

/-- The active endpoint is where it was if it has not been moved, or if the last move has brought
it back. -/
theorem endpoint_eq_iff (hr : s.run cs = some s') :
    s'.world.shared.client.endpoint = s.world.shared.client.endpoint ↔
      s.moves cs = [] ∨ (s.moves cs).getLast? = some s.world.shared.client.endpoint := by
  rw [endpoint_of_run hr]
  cases hlast : (s.moves cs).getLast? with
  | none => simp [List.getLast?_eq_none_iff.1 hlast]
  | some e =>
    have hne : s.moves cs ≠ [] := by
      intro hnil
      simp [hnil] at hlast
    simp [hne]

end System

/-! ## A refused call among others -/

section Refusal

variable {α : Type} {s s₁ s₂ : System α} {id : Nat} {call : Call} {cs : List Choice}
  {r : Outcome Value} {master : String} {k : Outcome Value → Program α}

/-- A call is sent to the active endpoint, others take turns, and the answer names a master. The
call then moves the active endpoint if nobody has moved it, or if the last move has brought it
back; otherwise the call leaves it alone. -/
theorem client_of_refusal (hsent : s.stands id = .awaiting call fun r => (followUp call r).bind k)
    (hactive : s.world.shared.client.endpoint = call.endpoint) (hrun : s.run cs = some s₁)
    (hothers : ∀ c ∈ cs, c.id ≠ id) (hr : redirectTarget? r = some master)
    (hstep : s₁.step (.answer id r) = some s₂) :
    s₂.world.shared.client =
      if s.moves cs = [] ∨ (s.moves cs).getLast? = some call.endpoint then
        { s₁.world.shared.client with
          endpoint := call.endpoint.withHost master
          generation := s₁.world.shared.client.generation + 1 }
      else s₁.world.shared.client := by
  have hstand : s₁.stands id = .awaiting call fun r => (followUp call r).bind k := by
    rw [← hsent]
    exact System.stands_of_run hrun hothers
  rw [System.step_awaiting hstand, Program.settle_followUp_of_some hr] at hstep
  obtain rfl := Option.some.inj hstep
  have hback := System.endpoint_eq_iff hrun
  rw [hactive] at hback
  simp only [← hback]
  rfl

end Refusal

/-- Three calls to the host `a`. -/
def asks (id : Nat) : Call :=
  ⟨.ofHost "a" true, ["VM.get_all", "SR.get_all", "VDI.get_all"].getD id "", [], none⟩

/-- Three calls to a pool whose active endpoint is the host `a`. -/
def threeCalls : System (Outcome Value) where
  world := ⟨.initial (.ofHost "a" true) none, fun _ => none, []⟩
  stands id :=
    if id < 3 then .idle (callPool (asks id).method (asks id).params (asks id).deadline)
    else .ended (.ok .nil)

/-- The refusal of a host that is not master. -/
def refusal (master : String) : Outcome Value :=
  .error (.server (.new Api.hostIsSlave [master]))

/-- The second call moves the active endpoint to `b`, and the third moves it back to `a`. -/
def thereAndBack : List Choice :=
  [.go 1, .answer 1 (refusal "b"), .answer 1 (.ok .nil),
    .go 2, .answer 2 (refusal "a"), .answer 2 (.ok .nil)]

/-- While the first call waits for its answer from `a`, the active endpoint moves there and back.
Then `a` names `c` to the first call, which undoes the last move. -/
theorem client_of_refusal_moved_back :
    ∃ s s₁ s₂, threeCalls.run [.go 0] = some s ∧ s.run thereAndBack = some s₁ ∧
      s₁.world.shared.client = ⟨.ofHost "a" true, 2, none⟩ ∧
      s₁.step (.answer 0 (refusal "c")) = some s₂ ∧
      s₂.world.shared.client = ⟨.ofHost "c" true, 3, none⟩ := by
  have hrun : ∃ call s s₁ s₂, threeCalls.run [.go 0] = some s ∧
      s.stands 0 = .awaiting call (fun r => (followUp call r).bind .done) ∧
      s.world.shared.client.endpoint = call.endpoint ∧ s.run thereAndBack = some s₁ ∧
      s.moves thereAndBack = [.ofHost "b" true, call.endpoint] ∧
      s₁.world.shared.client = ⟨.ofHost "a" true, 2, none⟩ ∧
      call.endpoint.withHost "c" = .ofHost "c" true ∧
      s₁.step (.answer 0 (refusal "c")) = some s₂ := by
    refine ⟨asks 0, _, _, _, rfl, ?_, rfl, rfl, rfl, rfl, rfl, rfl⟩
    simp only [Program.bind_done]
    rfl
  obtain ⟨call, s, s₁, s₂, hs, hsent, hactive, hothers, hmoves, hclient, htarget, hstep⟩ := hrun
  refine ⟨s, s₁, s₂, hs, hothers, hclient, hstep, ?_⟩
  rw [client_of_refusal hsent hactive hothers (by decide) rfl hstep, hmoves, hclient, htarget]
  simp

end PoolClient
