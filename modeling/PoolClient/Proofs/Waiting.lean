import PoolClient.Proofs.ErrorRoutes
import PoolClient.Proofs.Stages
/-!
# Waiting for tasks

To wait for a task is to ask for its status again and again, with a pause after each answer that
says the task is under way. An `Act` is a call of the session or a pause, and `Performed` says what
a run that consists of given acts does on the way to the pool, redirections and logins included. The
answers decide everything (`waitFor_follows_history`): as long as they say that the task is under
way the wait goes on, and by the first that does not it ends, in the way that `Concludes` tells.
-/

namespace PoolClient

open Schema Time

variable {σ α : Type} {T : Transport σ} {s : Shared} {t : σ} {h : Session} {task : String}

/-! ## Acts -/

/-- What a session does about a task. -/
inductive Act where
  | asked (method : String) (answer : Outcome Value)
  | paused (time : Duration)

/-- The ending of a run that consists of the given acts. A call about the task is one of the
session, and does on its way what such a call does when it runs alone. -/
inductive Performed (T : Transport σ) (h : Session) (task : String) :
    List Act → Shared → σ → Ending σ α → Prop
  | nil {s : Shared} {t : σ} {a : α} : Performed T h task [] s t ⟨a, s, t, []⟩
  | asked {s : Shared} {t : σ} {method : String} {answer : Outcome Value} {acts : List Act}
    {call : Ending σ (Outcome Value)} {e : Ending σ α}
    (hcall : (h.call method [.string task]).alone T s t = call) (hanswer : call.result = answer)
    (hrest : Performed T h task acts call.shared call.transport e) :
    Performed T h task (.asked method answer :: acts) s t (e.after call.deeds)
  | paused {s : Shared} {t : σ} {time : Duration} {acts : List Act} {e : Ending σ α}
    (hrest : Performed T h task acts s t e) :
    Performed T h task (.paused time :: acts) s t (e.after [.paused time])

/-- A single call about a task, with any result. -/
theorem Performed.single {method : String} {answer : Outcome Value}
    {call : Ending σ (Outcome Value)} (hcall : (h.call method [.string task]).alone T s t = call)
    (hanswer : call.result = answer) (a : α) :
    Performed T h task [.asked method answer] s t
      ⟨a, call.shared, call.transport, call.deeds⟩ := by
  have hsingle := Performed.asked hcall hanswer (.nil (a := a))
  rwa [Ending.after, List.append_nil] at hsingle

/-- What is sent, or waited for, in an act that takes a single attempt. -/
def Act.deed (c : Client) (h : Session) (ref task : String) : Act → Deed
  | .asked method answer =>
    .sent ⟨c.endpoint, method, [.string ref, .string task], h.deadline⟩ answer
  | .paused time => .paused time

/-- The login is not outdated, and no host ever names a master. -/
structure Direct (T : Transport σ) (s : Shared) (h : Session) : Prop where
  current : s.client.generation = (s.login h.login).generation
  names : ∀ t call master, ¬NamesMaster (T t call).1 master

/-- Then a call of the session is sent once, with the reference of the session in front. -/
theorem Direct.alone_call (hdirect : Direct T s h) {ref method : String} {args : List Value}
    (href : (s.login h.login).ref = some ref) :
    let call : Call := ⟨s.client.endpoint, method, .string ref :: args, h.deadline⟩
    (h.call method args).alone T s t =
      ⟨(T t call).1, s, (T t call).2, [.sent call (T t call).1]⟩ := by
  intro call
  have hpool : (callPool method (.string ref :: args) h.deadline).alone T s t =
      ⟨(T t call).1, s, (T t call).2, [.sent call (T t call).1]⟩ :=
    alone_callPool_of_none rfl (redirectTarget?_eq_none_iff.2 (hdirect.names t call))
  have hworth : ¬h.worthLoggingIn (s.login h.login).generation s (T t call).1 = true := by
    rw [worthLoggingIn_iff]
    exact fun houtdated => houtdated.1.2 hdirect.current
  rw [Session.alone_call href hpool, if_neg hworth]

/-- Then each call about a task is sent once, with the references of the session and of the task. -/
theorem Performed.deeds_eq {acts : List Act} {e : Ending σ α} {ref : String}
    (hperformed : Performed T h task acts s t e) (hdirect : Direct T s h)
    (href : (s.login h.login).ref = some ref) :
    e.deeds = acts.map (Act.deed s.client h ref task) := by
  induction hperformed with
  | nil => rfl
  | asked hcall hanswer hrest ih =>
    rw [hdirect.alone_call href] at hcall
    subst hcall hanswer
    rw [Ending.deeds_after, ih hdirect href]
    rfl
  | paused hrest ih =>
    rw [Ending.deeds_after, ih hdirect href]
    rfl

/-! ## Answers -/

/-- The answer that a task is under way. -/
def Ongoing (answer : Outcome Value) : Prop :=
  answer = .ok (.string "pending") ∨ answer = .ok (.string "cancelling")

/-- What is done about a task that is under way: each answer is followed by a pause. -/
def waits (interval : Duration) : List (Outcome Value) → List Act
  | [] => []
  | answer :: rest => .asked "task.get_status" answer :: .paused interval :: waits interval rest

/-- How a wait ends by the answer that is the last: what is asked then, and what comes of it. -/
inductive Concludes (result : WireType) (task label : String) :
    Outcome Value → List Act → Outcome Datum → Prop
  | success {text : String} :
    Concludes result task label (.ok (.string "success"))
      [.asked "task.get_result" (.ok (.string text))] (Task.decodeResult result label text)
  | failure {code : String} {params : List String} :
    Concludes result task label (.ok (.string "failure"))
      [.asked "task.get_error_info" (.ok (.texts (code :: params)))]
      (.error (.server ⟨code, params, none⟩))
  | failureUntold :
    Concludes result task label (.ok (.string "failure"))
      [.asked "task.get_error_info" (.ok (.texts []))]
      (.error (.server ⟨"INTERNAL_ERROR", [], none⟩))
  | cancelled :
    Concludes result task label (.ok (.string "cancelled")) [] (.error (.taskCancelled task))
  | unknown {status : String}
    (hstatus : status ∉ ["pending", "success", "failure", "cancelling", "cancelled"]) :
    Concludes result task label (.ok (.string status)) []
      (.error (.codec ⟨"task.get_status -> ", .unknownLabel status⟩))
  | noText {v : Value} (hv : v.text? = none) :
    Concludes result task label (.ok v) []
      (.error (.codec ⟨"task.get_status -> ", .typeMismatch .string v.type⟩))
  | failed {error : Error} : Concludes result task label (.error error) [] (.error error)

/-- Only a task that has succeeded gives a result. -/
theorem Concludes.succeeded {result : WireType} {label : String} {last : Outcome Value}
    {follow : List Act} {r : Outcome Datum} {d : Datum}
    (hend : Concludes result task label last follow r) (hr : r = .ok d) :
    last = .ok (.string "success") := by
  cases hend with
  | success => rfl
  | failure | failureUntold | cancelled | unknown | noText | failed => cases hr

/-! ## One poll -/

/-- What a poll does by the status of the task. -/
def Task.proceed (h : Session) (result : WireType) (task label : String) :
    Task.Status → Program (Outcome (Option Datum))
  | .pending | .cancelling => .done (.ok none)
  | .success =>
    (h.invoke "task.get_result" [.string task] .text).andThen fun text =>
      .done ((Task.decodeResult result label text.asText).map some)
  | .failure =>
    (h.invoke "task.get_error_info" [.string task] (.list .text)).andThen fun info =>
      .done (.error (.server (.ofInfo (info.asItems.map Datum.asText))))
  | .cancelled => .done (.error (.taskCancelled task))
  | .unknown status => .done (.error (.codec ⟨"task.get_status -> ", .unknownLabel status⟩))

theorem Task.outcome_eq (h : Session) (result : WireType) (task label : String) :
    Task.outcome h result task label =
      (h.invoke "task.get_status" [.string task] Task.statusType).andThen fun status =>
        Task.proceed h result task label (.ofText status.asText) :=
  rfl

theorem Task.Status.ofText_eq_unknown {status : String}
    (h : status ∉ ["pending", "success", "failure", "cancelling", "cancelled"]) :
    Task.Status.ofText status = .unknown status := by
  unfold Task.Status.ofText
  split
  case h_6 => rfl
  all_goals exact absurd (by decide) h

section

variable (result : WireType) (label : String) {status : Ending σ (Outcome Value)}

/-- A poll that is answered with a text goes on by the status that the text is. -/
theorem alone_outcome_of_text {text : String}
    (hstatus : (h.call "task.get_status" [.string task]).alone T s t = status)
    (htext : status.result = .ok (.string text)) :
    (Task.outcome h result task label).alone T s t =
      ((Task.proceed h result task label (.ofText text)).alone T status.shared
        status.transport).after status.deeds := by
  have hlabel : (h.invoke "task.get_status" [.string task] Task.statusType).alone T s t = _ :=
    alone_invoke_of_ok hstatus htext rfl
  rw [Task.outcome_eq, Program.alone_andThen_of_ok (congrArg Ending.result hlabel), hlabel]
  rfl

/-- A poll by which the task is under way does nothing but ask. -/
theorem alone_outcome_of_ongoing
    (hstatus : (h.call "task.get_status" [.string task]).alone T s t = status)
    (hongoing : Ongoing status.result) :
    (Task.outcome h result task label).alone T s t =
      ⟨.ok none, status.shared, status.transport, status.deeds⟩ := by
  obtain htext | htext := hongoing <;>
    rw [alone_outcome_of_text result label hstatus htext] <;> exact congrArg _ (List.append_nil _)

/-- A poll whose answer is no status fails with that. -/
theorem alone_outcome_of_error {error : Error}
    (hstatus : (h.call "task.get_status" [.string task]).alone T s t = status)
    (herror : (status.result.bind fun v =>
      (Task.statusType.decode "task.get_status -> " v).mapError .codec) = .error error) :
    (Task.outcome h result task label).alone T s t =
      ⟨.error error, status.shared, status.transport, status.deeds⟩ := by
  have hinvoke : (h.invoke "task.get_status" [.string task] Task.statusType).alone T s t = _ :=
    Session.alone_invoke hstatus
  rw [Task.outcome, Program.alone_andThen_of_error ((congrArg Ending.result hinvoke).trans herror),
    hinvoke]

end

/-! ## The last poll -/

section

variable (result : WireType) (label : String)

/-- The answers to what is asked after the last status: a text for the result of a task that has
succeeded, and texts for the error of one that has failed. -/
structure AnswersAfter (T : Transport σ) (h : Session) (task : String) (s : Shared) (t : σ)
    (last : Outcome Value) : Prop where
  result : last = .ok (.string "success") →
    ∃ text, ((h.call "task.get_result" [.string task]).alone T s t).result = .ok (.string text)
  info : last = .ok (.string "failure") →
    ∃ info, ((h.call "task.get_error_info" [.string task]).alone T s t).result = .ok (.texts info)

/-- What is left to do by the status of a task that has succeeded. -/
theorem alone_proceed_success {text : String} {asked : Ending σ (Outcome Value)}
    (hasked : (h.call "task.get_result" [.string task]).alone T s t = asked)
    (htext : asked.result = .ok (.string text)) :
    (Task.proceed h result task label .success).alone T s t =
      ⟨(Task.decodeResult result label text).map some, asked.shared, asked.transport,
        asked.deeds⟩ := by
  have hread : (h.invoke "task.get_result" [.string task] .text).alone T s t = _ :=
    alone_invoke_of_ok hasked htext rfl
  rw [Task.proceed, Program.alone_andThen_of_ok (congrArg Ending.result hread), hread]
  simp [Ending.after, Datum.asText]

/-- What is left to do by the status of a task that has failed. -/
theorem alone_proceed_failure {info : List String} {asked : Ending σ (Outcome Value)}
    (hasked : (h.call "task.get_error_info" [.string task]).alone T s t = asked)
    (hinfo : asked.result = .ok (.texts info)) :
    (Task.proceed h result task label .failure).alone T s t =
      ⟨.error (.server (.ofInfo info)), asked.shared, asked.transport, asked.deeds⟩ := by
  have hread : (h.invoke "task.get_error_info" [.string task] (.list .text)).alone T s t = _ :=
    alone_invoke_of_ok hasked hinfo (decode_texts _ info)
  have hparts : (info.map Datum.text).map Datum.asText = info := by
    rw [List.map_map]
    exact List.map_id _
  rw [Task.proceed, Program.alone_andThen_of_ok (congrArg Ending.result hread), hread]
  simp [Ending.after, Datum.asItems, hparts]

/-- By the status of a task that has ended, the poll ends as the status has it. -/
theorem exists_concludes_of_text {status : String} (hended : ¬Ongoing (.ok (.string status)))
    (hanswers : AnswersAfter T h task s t (.ok (.string status))) :
    let ending := (Task.proceed h result task label (.ofText status)).alone T s t
    ∃ follow r, Concludes result task label (.ok (.string status)) follow r ∧
      ending.result = r.map some ∧ Performed T h task follow s t ending := by
  by_cases hknown : status ∈ ["pending", "success", "failure", "cancelling", "cancelled"]
  · simp only [List.mem_cons, List.not_mem_nil, or_false] at hknown
    obtain rfl | rfl | rfl | rfl | rfl := hknown
    · exact absurd (.inl rfl) hended
    · obtain ⟨text, htext⟩ := hanswers.result rfl
      have hproceed := alone_proceed_success result label rfl htext
      refine ⟨_, _, .success, congrArg Ending.result hproceed, ?_⟩
      exact hproceed ▸ .single rfl htext _
    · obtain ⟨info, hinfo⟩ := hanswers.info rfl
      have hproceed := alone_proceed_failure result label rfl hinfo
      cases info with
      | nil =>
        refine ⟨_, _, .failureUntold, congrArg Ending.result hproceed, ?_⟩
        exact hproceed ▸ .single rfl hinfo _
      | cons code params =>
        refine ⟨_, _, .failure, congrArg Ending.result hproceed, ?_⟩
        exact hproceed ▸ .single rfl hinfo _
    · exact absurd (.inr rfl) hended
    · exact ⟨[], _, .cancelled, rfl, .nil⟩
  · rw [Task.Status.ofText_eq_unknown hknown]
    exact ⟨[], _, .unknown hknown, rfl, .nil⟩

/-- A poll by which the task has ended is the last, and ends as its answer has it. -/
theorem exists_concludes {status : Ending σ (Outcome Value)} {last : Outcome Value}
    (hstatus : (h.call "task.get_status" [.string task]).alone T s t = status)
    (hlast : status.result = last) (hended : ¬Ongoing last)
    (hanswers : AnswersAfter T h task status.shared status.transport last) :
    let ending := (Task.outcome h result task label).alone T s t
    ∃ follow r, Concludes result task label last follow r ∧ ending.result = r.map some ∧
      Performed T h task (.asked "task.get_status" last :: follow) s t ending := by
  intro ending
  -- An answer that is no text is not read as a status, and nothing is asked after it.
  have herror (error : Error) (hread : (last.bind fun v =>
      (Task.statusType.decode "task.get_status -> " v).mapError .codec) = .error error)
      (hconcludes : Concludes result task label last [] (.error error)) :
      ∃ follow r, Concludes result task label last follow r ∧ ending.result = r.map some ∧
        Performed T h task (.asked "task.get_status" last :: follow) s t ending := by
    have hending : ending = ⟨.error error, status.shared, status.transport, status.deeds⟩ :=
      alone_outcome_of_error result label hstatus (hlast ▸ hread)
    rw [hending]
    exact ⟨[], _, hconcludes, rfl, .single hstatus hlast _⟩
  cases last with
  | error error => exact herror error rfl .failed
  | ok v =>
    cases v with
    | string text =>
      obtain ⟨follow, r, hconcludes, hresult, hperformed⟩ :=
        exists_concludes_of_text result label hended hanswers
      have hending : ending = _ := alone_outcome_of_text result label hstatus hlast
      rw [hending]
      exact ⟨follow, r, hconcludes, hresult, .asked hstatus hlast hperformed⟩
    | _ => exact herror _ rfl (.noText rfl)

end

/-! ## The whole wait -/

section

variable (result : WireType) (label : String) (interval : Duration)

/-- After an answer that the task is under way there is a pause, and the wait goes on. -/
theorem alone_waitFor_of_ongoing {status : Ending σ (Outcome Value)}
    (hstatus : (h.call "task.get_status" [.string task]).alone T s t = status)
    (hongoing : Ongoing status.result) (polls : Nat) :
    (Task.waitFor h result task label interval (polls + 1)).alone T s t =
      (((Task.waitFor h result task label interval polls).alone T status.shared
        status.transport).after [.paused interval]).after status.deeds := by
  have hpoll := alone_outcome_of_ongoing result label hstatus hongoing
  rw [Task.waitFor, Program.alone_andThen_of_ok (congrArg Ending.result hpoll), hpoll]
  rfl

/-- A poll that gives a result or fails is the end of the wait. -/
theorem alone_waitFor_of_ended {ending : Ending σ (Outcome (Option Datum))} {r : Outcome Datum}
    (hpoll : (Task.outcome h result task label).alone T s t = ending)
    (hr : ending.result = r.map some) (polls : Nat) :
    (Task.waitFor h result task label interval (polls + 1)).alone T s t = ending := by
  obtain ⟨found, s', t', ds⟩ := ending
  obtain rfl : found = r.map some := hr
  cases r with
  | ok d =>
    rw [Task.waitFor, Program.alone_andThen_of_ok (congrArg Ending.result hpoll), hpoll]
    simp [Ending.after, Except.map]
  | error error =>
    rw [Task.waitFor, Program.alone_andThen_of_error (congrArg Ending.result hpoll), hpoll]
    rfl

variable {interval} {history : List (Outcome Value)} {last : Outcome Value} {e : Ending σ Unit}

/-- As long as the answers say that the task is under way, nothing comes of the wait. -/
theorem performed_waitFor_of_ongoing {rest : List Act}
    (hongoing : ∀ answer ∈ history, Ongoing answer)
    (hhistory : Performed T h task (waits interval history ++ rest) s t e) {polls : Nat}
    (hpolls : polls ≤ history.length) :
    let ending := (Task.waitFor h result task label interval polls).alone T s t
    ending.result = .ok none ∧
      Performed T h task (waits interval (history.take polls)) s t ending := by
  induction history generalizing s t e polls with
  | nil =>
    obtain rfl := Nat.le_zero.1 hpolls
    exact ⟨rfl, .nil⟩
  | cons answer history ih =>
    obtain ⟨hfirst, hothers⟩ := List.forall_mem_cons.1 hongoing
    cases polls with
    | zero => exact ⟨rfl, .nil⟩
    | succ polls =>
      obtain _ | ⟨hstatus, rfl, _ | _ | hrest⟩ := hhistory
      obtain ⟨hresult, hperformed⟩ := ih hothers hrest (Nat.le_of_succ_le_succ hpolls)
      rw [alone_waitFor_of_ongoing result label interval hstatus hfirst]
      exact ⟨hresult, .asked hstatus rfl (.paused hperformed)⟩

/-- By the first answer that does not say so the wait ends, however often it may go on. -/
theorem performed_waitFor_of_ended (hongoing : ∀ answer ∈ history, Ongoing answer)
    (hlast : ¬Ongoing last)
    (hhistory :
      Performed T h task (waits interval history ++ [.asked "task.get_status" last]) s t e)
    (hanswers : AnswersAfter T h task e.shared e.transport last) :
    ∃ follow r, Concludes result task label last follow r ∧ ∀ polls > history.length,
      let ending := (Task.waitFor h result task label interval polls).alone T s t
      ending.result = r.map some ∧ Performed T h task
        (waits interval history ++ .asked "task.get_status" last :: follow) s t ending := by
  induction history generalizing s t e with
  | nil =>
    obtain _ | ⟨hstatus, hanswer, hnil⟩ := hhistory
    cases hnil
    obtain ⟨follow, r, hconcludes, hresult, hperformed⟩ :=
      exists_concludes result label hstatus hanswer hlast hanswers
    refine ⟨follow, r, hconcludes, fun polls hpolls => ?_⟩
    obtain ⟨polls, rfl⟩ := Nat.exists_eq_succ_of_ne_zero (Nat.ne_of_gt hpolls)
    rw [alone_waitFor_of_ended result label interval rfl hresult]
    exact ⟨hresult, hperformed⟩
  | cons answer history ih =>
    obtain ⟨hfirst, hothers⟩ := List.forall_mem_cons.1 hongoing
    obtain _ | ⟨hstatus, rfl, _ | _ | hrest⟩ := hhistory
    obtain ⟨follow, r, hconcludes, hending⟩ := ih hothers hrest hanswers
    refine ⟨follow, r, hconcludes, fun polls hpolls => ?_⟩
    obtain ⟨polls, rfl⟩ := Nat.exists_eq_succ_of_ne_zero (Nat.ne_zero_of_lt hpolls)
    obtain ⟨hresult, hperformed⟩ := hending polls (Nat.lt_of_succ_lt_succ hpolls)
    rw [alone_waitFor_of_ongoing result label interval hstatus hfirst]
    exact ⟨hresult, .asked hstatus rfl (.paused hperformed)⟩

end

/-- A wait follows the history of the answers. As long as they say that the task is under way,
nothing comes of it and each answer is followed by a pause. By the first answer that does not, it
ends: what is asked then and what comes of it depends on this answer (`Concludes`), nothing else is
asked, and there is a result only if the task has succeeded. If the login is not outdated and no
host names a master, each of these calls is sent once. -/
theorem waitFor_follows_history {σ : Type} (T : Transport σ) (s : Shared) (t : σ) (h : Session)
    (result : WireType) (task label : String) (interval : Duration)
    {history : List (Outcome Value)} {last : Outcome Value} {e : Ending σ Unit}
    (hongoing : ∀ answer ∈ history, Ongoing answer) (hlast : ¬Ongoing last)
    (hhistory :
      Performed T h task (waits interval history ++ [.asked "task.get_status" last]) s t e)
    (hanswers : AnswersAfter T h task e.shared e.transport last) :
    (∀ polls ≤ history.length,
      let ending := (Task.waitFor h result task label interval polls).alone T s t
      ending.result = .ok none ∧
        Performed T h task (waits interval (history.take polls)) s t ending) ∧
    ∃ follow r, Concludes result task label last follow r ∧
      (∀ d, r = .ok d → last = .ok (.string "success")) ∧
      ∀ polls > history.length,
        let acts := waits interval history ++ .asked "task.get_status" last :: follow
        let ending := (Task.waitFor h result task label interval polls).alone T s t
        ending.result = r.map some ∧ Performed T h task acts s t ending ∧
          ∀ ref, (s.login h.login).ref = some ref → Direct T s h →
            ending.deeds = acts.map (Act.deed s.client h ref task) := by
  refine ⟨fun polls => performed_waitFor_of_ongoing result label hongoing hhistory, ?_⟩
  obtain ⟨follow, r, hconcludes, hending⟩ :=
    performed_waitFor_of_ended result label hongoing hlast hhistory hanswers
  refine ⟨follow, r, hconcludes, fun d => hconcludes.succeeded, fun polls hpolls => ?_⟩
  obtain ⟨hresult, hperformed⟩ := hending polls hpolls
  exact ⟨hresult, hperformed, fun ref href hdirect => hperformed.deeds_eq hdirect href⟩

/-- The master moves while a task is under way, so that the second poll is sent twice, and then the
task is cancelled for a while and succeeds after all. In a pool where no host names a master, a task
is cancelled after two polls. -/
theorem waitFor_follows_history_moved :
    let answers : List (Outcome Value) := [.ok (.string "pending"), refusal "b",
      .ok (.string "cancelling"), .ok (.string "success"), .ok (.string "")]
    let wait (polls : Nat) : Program (Outcome (Option Datum)) :=
      Task.waitFor ⟨0, none⟩ .nothing "t" "l" ⟨1000⟩ polls
    let ending := (wait 9).alone scripted (.loggedIn "r") answers
    let countdown : Transport Nat := fun n _ =>
      (.ok (.string (if n = 0 then "cancelled" else "pending")), n - 1)
    let acts (last : String) : List Act := [.asked "task.get_status" (.ok (.string "pending")),
      .paused ⟨1000⟩, .asked "task.get_status" (.ok (.string last))]
    ((wait 2).alone scripted (.loggedIn "r") answers).result = .ok none ∧
      ending.result = .ok (some .nothing) ∧ ending.deeds.length = 7 ∧
      (∃ follow r, Concludes .nothing "t" "l" (.ok (.string "success")) follow r ∧
        ending.result = r.map some ∧ Performed scripted ⟨0, none⟩ "t"
          (acts "cancelling" ++ [.paused ⟨1000⟩,
            .asked "task.get_status" (.ok (.string "success"))] ++ follow)
          (.loggedIn "r") answers ending) ∧
      ∃ follow, ((wait 9).alone countdown (.loggedIn "r") 1).deeds =
        (acts "cancelled" ++ follow).map
          (Act.deed (Shared.loggedIn "r").client ⟨0, none⟩ "r" "t") := by
  intro answers wait ending countdown acts
  have hmoved : Performed scripted ⟨0, none⟩ "t"
      (waits ⟨1000⟩ [.ok (.string "pending"), .ok (.string "cancelling")] ++
        [.asked "task.get_status" (.ok (.string "success"))]) (.loggedIn "r") answers _ :=
    .asked rfl rfl (.paused (.asked rfl rfl (.paused (.asked rfl rfl (.nil (a := ()))))))
  obtain ⟨hunderway, follow, r, hconcludes, -, hending⟩ :=
    waitFor_follows_history scripted (.loggedIn "r") answers ⟨0, none⟩ .nothing "t" "l" ⟨1000⟩
      (by simp [Ongoing]) (by simp [Ongoing]) hmoved ⟨fun _ => ⟨"", rfl⟩, fun h => by simp at h⟩
  obtain ⟨hresult, hperformed, -⟩ := hending 9 (by decide)
  have hcounted : Performed countdown ⟨0, none⟩ "t"
      (waits ⟨1000⟩ [.ok (.string "pending")] ++
        [.asked "task.get_status" (.ok (.string "cancelled"))]) (.loggedIn "r") 1 _ :=
    .asked rfl rfl (.paused (.asked rfl rfl (.nil (a := ()))))
  obtain ⟨-, rest, _, -, -, hended⟩ :=
    waitFor_follows_history countdown (.loggedIn "r") 1 ⟨0, none⟩ .nothing "t" "l" ⟨1000⟩
      (by simp [Ongoing]) (by simp [Ongoing]) hcounted
      ⟨fun h => by simp at h, fun h => by simp at h⟩
  obtain ⟨-, -, hdeeds⟩ := hended 9 (by decide)
  have hdirect : Direct countdown (.loggedIn "r") ⟨0, none⟩ :=
    ⟨rfl, fun _ _ _ ⟨_, _, h, _⟩ => by cases h⟩
  exact ⟨(hunderway 2 (by decide)).1, rfl, rfl, ⟨follow, r, hconcludes, hresult, hperformed⟩,
    rest, hdeeds "r" rfl hdirect⟩

end PoolClient
