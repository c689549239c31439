import PoolClient.Proofs.Alone
import PoolClient.Proofs.Redirection
/-!
# The attempts of a call

A host that is not the master refuses a call and may name the master (`Refuses`, `NamesMaster`).
A call that runs alone is sent to the active endpoint. If the answer names a master, the active
endpoint moves there and the call is sent once more, and that is the end of it
(`callPool_attempts`): who calls sees a refusal only if the first host names no master
(`not_refuses_secondAnswer`).
-/

namespace PoolClient

open Time

/-! ## Refusals -/

/-- The host is not the master, and says so. -/
def Refuses (answer : Outcome Value) : Prop :=
  ∃ e, answer = .error (.server e) ∧ e.code = Api.hostIsSlave

/-- The host is not the master, and says who is. -/
def NamesMaster (answer : Outcome Value) (master : String) : Prop :=
  ∃ e rest, answer = .error (.server e) ∧ e.code = Api.hostIsSlave ∧
    e.params = master :: rest ∧ master ≠ ""

variable {answer : Outcome Value} {master : String}

theorem redirectTarget?_eq_some_iff :
    redirectTarget? answer = some master ↔ NamesMaster answer master := by
  constructor
  · intro h
    unfold redirectTarget? at h
    split at h
    · rename_i e
      split at h
      · rename_i hcode
        split at h
        · rename_i named rest hparams
          split at h
          · cases h
          · rename_i hempty
            obtain rfl := Option.some.inj h
            exact ⟨e, rest, rfl, hcode, hparams, by simpa using hempty⟩
        · cases h
      · cases h
    · cases h
  · rintro ⟨e, rest, rfl, hcode, hparams, hempty⟩
    simp [redirectTarget?, hcode, hparams, hempty]

theorem redirectTarget?_eq_none_iff :
    redirectTarget? answer = none ↔ ∀ master, ¬NamesMaster answer master := by
  simp only [← redirectTarget?_eq_some_iff, Option.eq_none_iff_forall_ne_some, ne_eq]

theorem secondAnswer_of_not_refuses (h : ¬Refuses answer) :
    secondAnswer master answer = answer := by
  cases answer with
  | ok v => rfl
  | error e =>
    cases e with
    | server e =>
      have hcode : e.code ≠ Api.hostIsSlave := fun hcode => h ⟨e, rfl, hcode⟩
      simp [secondAnswer, hcode]
    | transport e => rfl
    | codec e => rfl
    | notLoggedIn => rfl
    | taskCancelled task => rfl

theorem secondAnswer_of_code {e : ServerError} (h : e.code = Api.hostIsSlave) :
    secondAnswer master (.error (.server e)) =
      .error (.transport (.tooManyRedirects (e.params.head?.getD master))) := by
  simp [secondAnswer, h]

/-- The second host's refusal does not reach who calls. -/
theorem not_refuses_secondAnswer (master : String) (answer : Outcome Value) :
    ¬Refuses (secondAnswer master answer) := by
  rintro ⟨e, he, hcode⟩
  by_cases h : Refuses answer
  · obtain ⟨e', rfl, hcode'⟩ := h
    rw [secondAnswer_of_code hcode'] at he
    cases he
  · rw [secondAnswer_of_not_refuses h] at he
    exact h ⟨e, he, hcode⟩

/-! ## A call that runs alone -/

section Alone

variable {σ : Type} (T : Transport σ) (s : Shared) (t : σ) (method : String)
  (params : List Value) (deadline : Option Duration)

/-- A call that runs alone is sent to the active endpoint `first.endpoint`. If the answer names no
master, it ends with the answer, and everything is as before. If the answer names one, the active
endpoint moves there, with one more generation, and the call is sent there, with the same method,
parameters and deadline. It then ends with the second answer, or, if that is a refusal too, with
an error of its own, which names the master of the second refusal or else that of the first. So
a refusal that reaches who calls is the first answer, and names no master. -/
theorem callPool_attempts :
    let first : Call := ⟨s.client.endpoint, method, params, deadline⟩
    let answer := T t first
    let ending := (callPool method params deadline).alone T s t
    ((∀ master, ¬NamesMaster answer.1 master) →
      ending = ⟨answer.1, s, answer.2, [.sent first answer.1]⟩) ∧
    (∀ master, NamesMaster answer.1 master →
      let second := first.toMaster master
      let answer' := T answer.2 second
      ending.deeds = [.sent first answer.1, .sent second answer'.1] ∧
      ending.shared.client = { s.client with
        endpoint := s.client.endpoint.withHost master, generation := s.client.generation + 1 } ∧
      ending.shared.login = s.login ∧ ending.transport = answer'.2 ∧
      (¬Refuses answer'.1 → ending.result = answer'.1) ∧
      ∀ e, answer'.1 = .error (.server e) → e.code = Api.hostIsSlave →
        ending.result = .error (.transport (.tooManyRedirects (e.params.head?.getD master)))) ∧
    (Refuses ending.result →
      ending.result = answer.1 ∧ ∀ master, ¬NamesMaster answer.1 master) := by
  intro first answer ending
  have hnone (h : ∀ master, ¬NamesMaster answer.1 master) :
      ending = ⟨answer.1, s, answer.2, [.sent first answer.1]⟩ :=
    alone_callPool_of_none rfl (redirectTarget?_eq_none_iff.2 h)
  have hsome (master : String) (h : NamesMaster answer.1 master) :
      ending = ⟨secondAnswer master (T answer.2 (first.toMaster master)).1,
        s.moveTo (s.client.endpoint.withHost master), (T answer.2 (first.toMaster master)).2,
        [.sent first answer.1,
          .sent (first.toMaster master) (T answer.2 (first.toMaster master)).1]⟩ :=
    alone_callPool_of_some rfl (redirectTarget?_eq_some_iff.2 h) rfl
  refine ⟨hnone, fun master hmaster => ?_, fun hrefuses => ?_⟩
  · have hending := hsome master hmaster
    intro second answer'
    refine ⟨by rw [hending], by rw [hending]; rfl, by rw [hending]; rfl, by rw [hending],
      fun hrefuses => ?_, fun e he hcode => ?_⟩
    · rw [hending]
      exact secondAnswer_of_not_refuses hrefuses
    · rw [hending]
      exact (congrArg (secondAnswer master) he).trans (secondAnswer_of_code hcode)
  · by_cases hmaster : ∃ master, NamesMaster answer.1 master
    · obtain ⟨master, hmaster⟩ := hmaster
      rw [hsome master hmaster] at hrefuses
      exact absurd hrefuses (not_refuses_secondAnswer _ _)
    · have hnot := not_exists.1 hmaster
      exact ⟨congrArg Ending.result (hnone hnot), hnot⟩

end Alone

/-- The host `a` names `b` as the master, and `b` names `c`. -/
def namesAnother : Transport Unit :=
  fun t call => (refusal (if call.endpoint.host = "a" then "b" else "c"), t)

/-- A call that both hosts refuse ends with the master that the second names, and the active
endpoint has moved once. -/
theorem callPool_attempts_refused_twice :
    let ending := (callPool "VM.get_all" [] none).alone namesAnother
      (.initial (.ofHost "a" true) none) ()
    NamesMaster (refusal "b") "b" ∧
      ending.result = .error (.transport (.tooManyRedirects "c")) ∧
      ending.shared.client = ⟨.ofHost "b" true, 1, none⟩ ∧ ending.deeds.length = 2 := by
  intro ending
  have hnames : NamesMaster (refusal "b") "b" := ⟨_, [], rfl, rfl, rfl, by decide⟩
  obtain ⟨-, hsome, -⟩ := callPool_attempts namesAnother (.initial (.ofHost "a" true) none) ()
    "VM.get_all" [] none
  obtain ⟨hdeeds, hclient, -, -, -, hresult⟩ := hsome "b" hnames
  exact ⟨hnames, hresult _ rfl rfl, hclient.trans rfl, congrArg List.length hdeeds⟩

end PoolClient
