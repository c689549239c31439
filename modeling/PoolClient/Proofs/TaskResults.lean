import PoolClient.Proofs.Envelopes
import PoolClient.Session.Task
/-!
# Results of tasks

What an operation gives can be had in two ways. If it is called, its result stands in the response
to the call (`resultOfText`). If it runs as a task, its result is the text of a value, which the
task holds until it is asked for (`Task.decodeResult`). Both readings begin with another element
and treat blank text differently, but of one written value they make the same datum, or refuse it
with the same label for the same misfit (`decodeResult_encodeValue`). Only an envelope is no result
of a call, for the response to a call may itself be one.
-/

namespace PoolClient

open Schema

/-- The result of a call as a type, read from the text of the response. -/
def resultOfText (t : WireType) (label text : String) : Outcome Datum :=
  (Http.outcomeOfText text).bind fun v => (t.decode label v).mapError .codec

/-- The result of a task is read as the value that arrives. -/
theorem decodeResult_received (t : WireType) (label : String) {v : Value} (hv : v.Canonical) :
    Task.decodeResult t label (encodeValue v) = (t.decode label v.received).mapError .codec := by
  rw [Task.decodeResult, WireType.decodeText, parseValue_received hv]

/-- The result of a call is read as the value that arrives, unless it is an envelope. -/
theorem resultOfText_received (t : WireType) (label : String) {v : Value} (hv : v.Canonical)
    (henvelope : ¬ v.IsEnvelope) :
    resultOfText t label (encodeResponse (.success v)) =
      (t.decode label v.received).mapError .codec := by
  rw [resultOfText, outcomeOfText_success hv henvelope]
  rfl

/-- A value that is no envelope is the same result from a task as from a call: the datum that the
value that arrives is decoded as, or the error of decoding it. -/
theorem decodeResult_encodeValue (t : WireType) (label : String) {v : Value} (hv : v.Canonical)
    (henvelope : ¬ v.IsEnvelope) :
    Task.decodeResult t label (encodeValue v) =
        resultOfText t label (encodeResponse (.success v)) ∧
      Task.decodeResult t label (encodeValue v) =
        (t.decode label v.received).mapError .codec := by
  have htask := decodeResult_received t label hv
  exact ⟨htask.trans (resultOfText_received t label hv henvelope).symm, htask⟩

/-- A structure that has a status and yet is no envelope, with a date among its texts. -/
theorem decodeResult_encodeValue_status :
    let v : Value := .struct [("Status", .string "Success"), ("since", .dateTime " now\n")]
    let e : Error := .codec ⟨"VM.get_log -> [since]", .typeMismatch .string .dateTime⟩
    Task.decodeResult (.map .text .text) "VM.get_log -> " (encodeValue v) = .error e ∧
      resultOfText (.map .text .text) "VM.get_log -> " (encodeResponse (.success v)) =
        .error e := by
  intro v e
  have hv : v.Canonical :=
    ⟨List.pairwise_pair.2 (show "Status" < "since" by decide), trivial, trivial, trivial⟩
  have henvelope : ¬ v.IsEnvelope := by
    rintro (⟨w, h⟩ | ⟨description, h⟩)
    · simp [v, Value.successEnvelope] at h
    · simp [v, Value.failureEnvelope] at h
  obtain ⟨hsame, htask⟩ :=
    decodeResult_encodeValue (.map .text .text) "VM.get_log -> " hv henvelope
  rw [← hsame, htask]
  exact ⟨rfl, rfl⟩

end PoolClient
