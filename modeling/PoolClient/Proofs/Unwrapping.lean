import PoolClient.Proofs.Envelopes
/-!
# Unwrapping of envelopes

What a response means to the caller is its `Response.outcome`, and over the wire it is that of the
response that arrives (`outcomeOfText_encodeResponse`). One layer is taken off and nothing else is
touched, whatever the value inside (`Response.outcome_unwraps_one_layer`).
-/

namespace PoolClient

open Value

/-- What a response means to the caller. -/
def Response.outcome (r : Response) : Outcome Value :=
  r.result.mapError .server

/-- The response as it arrives. -/
def Response.received : Response → Response
  | .success v => .success v.received
  | .fault v => .fault v.received

/-! ## Outcomes -/

namespace Response

theorem outcome_successEnvelope (v : Value) : (success v.successEnvelope).outcome = .ok v :=
  rfl

theorem outcome_success_of_not_isEnvelope {w : Value} (hw : w.Canonical) (h : ¬w.IsEnvelope) :
    (success w).outcome = .ok w := by
  rw [outcome, result, Envelope.of?_eq_none hw h]
  rfl

/-- Only a fault and a failure envelope bring an error, the one that the server reports in it. -/
theorem outcome_eq_error_iff {r : Response} (hr : r.payload.Canonical) {e : Error} :
    r.outcome = .error e ↔
      (∃ v, r = .fault v ∧ e = .server (.ofFault v)) ∨
        ∃ description, r = .success description.failureEnvelope ∧
          e = .server (.ofDescription description) := by
  constructor
  · intro h
    cases r with
    | fault v => exact .inl ⟨v, rfl, (Except.error.inj h).symm⟩
    | success v =>
      have hcanonical : v.Canonical := hr
      by_cases hv : v.IsEnvelope
      · obtain ⟨w, rfl⟩ | ⟨description, rfl⟩ := hv
        · rw [outcome_successEnvelope] at h
          cases h
        · exact .inr ⟨description, rfl, (Except.error.inj h).symm⟩
      · rw [outcome_success_of_not_isEnvelope hcanonical hv] at h
        cases h
  · rintro (⟨v, rfl, rfl⟩ | ⟨description, rfl, rfl⟩)
    · rfl
    · rfl

end Response

/-! ## Over the wire -/

/-- A written response means what it means as it arrives. -/
theorem outcomeOfText_encodeResponse {r : Response} (hr : r.payload.Canonical) :
    Http.outcomeOfText (encodeResponse r) = r.received.outcome := by
  cases r with
  | success v =>
    have hv : v.Canonical := hr
    rw [Http.outcomeOfText, parseResponse_success hv]
    rfl
  | fault v => exact outcomeOfText_fault hr

/-- A result arrives in its envelope. -/
theorem Value.received_successEnvelope (v : Value) :
    v.successEnvelope.received = v.received.successEnvelope := by
  simp [Value.successEnvelope, Value.received, Value.receivedMembers]

/-- A value that is sent in an envelope is the result, as it arrives. -/
theorem outcomeOfText_successEnvelope {v : Value} (hv : v.Canonical) :
    Http.outcomeOfText (encodeResponse (.success v.successEnvelope)) = .ok v.received := by
  have hr : (Response.success v.successEnvelope).payload.Canonical := hv.successEnvelope
  rw [outcomeOfText_encodeResponse hr, Response.received, received_successEnvelope,
    Response.outcome_successEnvelope]

/-- One layer is taken off and nothing else is touched. A result in an envelope is the value inside,
be it an envelope itself; a value without the shape of an envelope is the result as it is; and there
is an error only for a fault and for a failure envelope, the one that the server reports. Over the
wire, too, the value in an envelope is the result: the server and the caller agree on it. -/
theorem Response.outcome_unwraps_one_layer :
    (∀ v : Value, (Response.success v.successEnvelope).outcome = .ok v) ∧
    (∀ w : Value, w.Canonical → ¬w.IsEnvelope → (Response.success w).outcome = .ok w) ∧
    (∀ r : Response, r.payload.Canonical → ∀ e, r.outcome = .error e ↔
      (∃ v, r = .fault v ∧ e = .server (.ofFault v)) ∨
        ∃ description, r = .success description.failureEnvelope ∧
          e = .server (.ofDescription description)) ∧
    (∀ r : Response, r.payload.Canonical →
      Http.outcomeOfText (encodeResponse r) = r.received.outcome) ∧
    ∀ v : Value, v.Readable →
      Http.outcomeOfText (encodeResponse (.success v.successEnvelope)) = .ok v.norm := by
  refine ⟨outcome_successEnvelope, fun w => outcome_success_of_not_isEnvelope,
    fun r hr e => outcome_eq_error_iff hr, fun r => outcomeOfText_encodeResponse, fun v hv => ?_⟩
  rw [outcomeOfText_successEnvelope hv.1, hv.received_eq]

/-- A failure envelope that is sent in an envelope is a result, and one that is sent on its own is an
error, also over the wire. A map with some of the names is a result, too. -/
theorem Response.outcome_unwraps_one_layer_nested :
    let failure : Value := .failureEnvelope (.dateTime " now ")
    let near : Value := .struct [("Status", .string "Success"), ("Value", .nil), ("Z", .nil)]
    (Response.success failure.successEnvelope).outcome = .ok failure ∧
      Http.outcomeOfText (encodeResponse (.success failure.successEnvelope)) =
        .ok (.failureEnvelope (.dateTime "now")) ∧
      (Response.success failure).outcome = .error (.server (.ofDescription (.dateTime " now "))) ∧
      Http.outcomeOfText (encodeResponse (.success failure)) =
        .error (.server (.ofDescription (.dateTime "now"))) ∧
      (Response.success near).outcome = .ok near := by
  intro failure near
  have hdate : (Value.dateTime " now ").Canonical := trivial
  have hfailure : failure.Canonical := hdate.failureEnvelope
  have hnear : near.Canonical := by
    refine ⟨?_, trivial, trivial, trivial, trivial⟩
    simp only [List.pairwise_cons]
    decide
  have hother : ¬near.IsEnvelope := by
    rintro (⟨w, h⟩ | ⟨description, h⟩)
    · simp [near, successEnvelope] at h
    · simp [near, failureEnvelope] at h
  obtain ⟨hunwrap, hplain, herror, hwire, hsent⟩ := Response.outcome_unwraps_one_layer
  refine ⟨hunwrap failure, ?_, ?_, ?_, hplain near hnear hother⟩
  · rw [hsent failure ⟨hfailure, by simp [failure, doubles, memberDoubles, failureEnvelope]⟩]
    rfl
  · exact (herror (.success failure) hfailure _).2 (.inr ⟨_, rfl, rfl⟩)
  · rw [hwire (.success failure) hfailure]
    rfl

end PoolClient
