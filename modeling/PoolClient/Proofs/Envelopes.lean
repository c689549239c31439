import PoolClient.Http.Exchange
import PoolClient.Proofs.RoundTrip
/-!
# Envelopes that are sent

A value arrives with its envelope intact (`Envelope.of?_received`): neither the trimming of dates
nor the reading of doubles touches the names and texts by which envelopes and faults are known. A
value in the form that values have is an envelope only if it has one of the two shapes that
`Value.IsEnvelope` names. So what a written response brings is known from the value that was
written (`outcomeOfText_success`, `outcomeOfText_fault`).
-/

namespace PoolClient

namespace Value

/-! ## Parts of values that arrive -/

theorem length_receivedMembers (members : List (String × Value)) :
    (receivedMembers members).length = members.length := by
  have hnames := congrArg List.length (map_name_receivedMembers members)
  rwa [List.length_map, List.length_map] at hnames

/-- A member is found in what arrives as it was found before. -/
theorem member?_receivedMembers (members : List (String × Value)) (name : String) :
    member? (receivedMembers members) name = (member? members name).map received := by
  induction members with
  | nil => rfl
  | cons m rest ih =>
    obtain ⟨n, v⟩ := m
    rw [receivedMembers, member?_cons, member?_cons, ih]
    split <;> rfl

/-- Texts arrive as they are, and nothing else becomes one. -/
theorem text?_received (v : Value) : v.received.text? = v.text? := by
  cases v <;> simp [received, text?]

theorem text?_member?_receivedMembers (members : List (String × Value)) (name : String) :
    (member? (receivedMembers members) name).bind text? = (member? members name).bind text? := by
  rw [member?_receivedMembers]
  cases member? members name with
  | none => rfl
  | some v => exact text?_received v

/-! ## Shapes of envelopes -/

/-- A result in an envelope. -/
def successEnvelope (v : Value) : Value :=
  .struct [("Status", .string "Success"), ("Value", v)]

/-- The description of an error in an envelope. -/
def failureEnvelope (description : Value) : Value :=
  .struct [("ErrorDescription", description), ("Status", .string "Failure")]

theorem Canonical.successEnvelope {v : Value} (h : v.Canonical) : v.successEnvelope.Canonical :=
  ⟨List.pairwise_pair.2 (show "Status" < "Value" by decide), trivial, h, trivial⟩

theorem Canonical.failureEnvelope {description : Value} (h : description.Canonical) :
    description.failureEnvelope.Canonical :=
  ⟨List.pairwise_pair.2 (show "ErrorDescription" < "Status" by decide), h, trivial, trivial⟩

/-- A result or the description of an error in an envelope. -/
def IsEnvelope (v : Value) : Prop :=
  (∃ w, v = successEnvelope w) ∨ ∃ description, v = failureEnvelope description

/-- Two members with different names, one found by the lesser name and one by the greater, stand
in this order. -/
theorem eq_pair_of_member? {members : List (String × Value)} {m n : String} {v w : Value}
    (hlength : members.length = 2) (hsorted : members.Pairwise (·.1 < ·.1)) (hlt : m < n)
    (hm : member? members m = some v) (hn : member? members n = some w) :
    members = [(m, v), (n, w)] := by
  obtain ⟨a, b, rfl⟩ : ∃ a b, members = [a, b] := by
    match members, hlength with
    | [a, b], _ => exact ⟨a, b, rfl⟩
  have hab : a.1 < b.1 := (List.pairwise_cons.1 hsorted).1 b List.mem_cons_self
  have hne : n ≠ m := fun h => String.lt_irrefl _ (h ▸ hlt)
  have hfind : ∀ {name : String} {u : Value}, member? [a, b] name = some u →
      (name = a.1 ∧ a.2 = u) ∨ name = b.1 ∧ b.2 = u := by
    intro name u h
    rw [show a = (a.1, a.2) from rfl, member?_cons] at h
    split at h
    · rename_i hname
      exact .inl ⟨hname, Option.some.inj h⟩
    · rw [show b = (b.1, b.2) from rfl, member?_cons] at h
      split at h
      · rename_i hname
        exact .inr ⟨hname, Option.some.inj h⟩
      · cases h
  obtain ⟨rfl, rfl⟩ | ⟨rfl, rfl⟩ := hfind hm
  · obtain ⟨hsame, -⟩ | ⟨rfl, rfl⟩ := hfind hn
    · exact absurd hsame hne
    · rfl
  · obtain ⟨rfl, -⟩ | ⟨hsame, -⟩ := hfind hn
    · exact absurd (String.lt_trans hab hlt) (String.lt_irrefl _)
    · exact absurd hsame hne

end Value

namespace Envelope

open Value

/-- The envelope as it arrives. -/
def received : Envelope → Envelope
  | .success v => .success v.received
  | .failure description => .failure description.received

/-- A value is the same kind of envelope when it has arrived. -/
theorem of?_received (v : Value) : of? v.received = (of? v).map received := by
  cases v with
  | struct members =>
    rw [Value.received, of?, of?, length_receivedMembers, text?_member?_receivedMembers,
      member?_receivedMembers, member?_receivedMembers]
    split
    · split
      · simp only [Option.map_map]
        rfl
      · simp only [Option.map_map]
        rfl
      · rfl
    · rfl
  | _ => simp [Value.received, of?]

/-- A value that has not the shape of an envelope is none. -/
theorem of?_eq_none {v : Value} (hv : v.Canonical) (h : ¬ v.IsEnvelope) : of? v = none := by
  cases v with
  | struct members =>
    rw [Option.eq_none_iff_forall_ne_some]
    intro envelope henvelope
    simp only [of?] at henvelope
    split at henvelope
    · rename_i hlength
      split at henvelope
      · rename_i hstatus
        obtain ⟨status, hstatus, htext⟩ := Option.bind_eq_some_iff.1 hstatus
        obtain ⟨w, hw, -⟩ := Option.map_eq_some_iff.1 henvelope
        have hshape := eq_pair_of_member? hlength hv.1 (by decide) hstatus hw
        cases status <;> cases htext
        exact h (.inl ⟨w, by rw [hshape, successEnvelope]⟩)
      · rename_i hstatus
        obtain ⟨status, hstatus, htext⟩ := Option.bind_eq_some_iff.1 hstatus
        obtain ⟨w, hw, -⟩ := Option.map_eq_some_iff.1 henvelope
        have hshape := eq_pair_of_member? hlength hv.1 (by decide) hw hstatus
        cases status <;> cases htext
        exact h (.inr ⟨w, by rw [hshape, failureEnvelope]⟩)
      · cases henvelope
    · cases henvelope
  | _ => rfl

end Envelope

/-! ## Results of written responses -/

/-- A result that is no envelope is brought as it arrives. -/
theorem outcomeOfText_success {v : Value} (hv : v.Canonical) (h : ¬ v.IsEnvelope) :
    Http.outcomeOfText (encodeResponse (.success v)) = .ok v.received := by
  rw [Http.outcomeOfText, parseResponse_success hv]
  simp only [Response.result, Envelope.of?_received, Envelope.of?_eq_none hv h, Option.map_none]
  rfl

/-- A failure envelope brings the error that its description describes. -/
theorem outcomeOfText_failureEnvelope {description : Value} (h : description.Canonical) :
    Http.outcomeOfText (encodeResponse (.success description.failureEnvelope)) =
      .error (.server (.ofDescription description.received)) := by
  rw [Http.outcomeOfText, parseResponse_success h.failureEnvelope]
  rfl

/-- A fault brings the error that it is. -/
theorem outcomeOfText_fault {v : Value} (hv : v.Canonical) :
    Http.outcomeOfText (encodeResponse (.fault v)) = .error (.server (.ofFault v.received)) := by
  rw [Http.outcomeOfText, parseResponse_fault hv]
  rfl

end PoolClient
