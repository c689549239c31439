import PoolClient.Proofs.Operations
import PoolClient.Proofs.Pacts
import PoolClient.Proofs.Stages
/-!
# Requests that fail

A request to a session is an explicit login or an operation. One that fails leaves what the session
remembers as it was, but for the reference and the generation of a login that it has made again on
its way (`Kept`). Whether it has made one can be seen from the log (`Program.lines`): each login
that succeeds is a line in it.

However requests are interleaved, credentials are stored only beside a reference
(`Shared.Warranted`), since whatever is stored is a whole login that keeps to this
(`failed_request_keeps_login`).
-/

namespace PoolClient

open Session Time

variable {σ α β : Type}

/-! ## The log -/

/-- A login has succeeded. -/
def Notice.IsLogin : Notice → Prop
  | .loggedIn .. | .loggedInLocally .. => True
  | .loggedOut _ | .redirected .. | .loggingInAgain .. => False

namespace Program

/-- The lines that a program writes into the log when it runs alone. -/
def lines (T : Transport σ) : Program α → Shared → σ → List Notice
  | .done _, _, _ => []
  | .look next, s, t => (next s).lines T s t
  | .change f next, s, t => next.lines T (f s) t
  | .note line next, s, t => line :: next.lines T s t
  | .send call next, s, t => (next (T t call).1).lines T s (T t call).2
  | .pause _ next, s, t => next.lines T s t
  | .acquire _ next, s, t => next.lines T s t
  | .release _ next, s, t => next.lines T s t

/-- What goes on with the result of a program writes its lines after those of the program. -/
theorem lines_bind (T : Transport σ) (p : Program α) (f : α → Program β) (s : Shared) (t : σ) :
    (p.bind f).lines T s t =
      p.lines T s t ++ (f (p.alone T s t).result).lines T (p.alone T s t).shared
        (p.alone T s t).transport := by
  induction p generalizing s t with
  | done a => rfl
  | look next ih => exact ih s s t
  | change g next ih => exact ih (g s) t
  | note line next ih => exact congrArg (line :: ·) (ih s t)
  | send call next ih => exact ih _ s _
  | pause time next ih => exact ih s t
  | acquire i next ih => exact ih s t
  | release i next ih => exact ih s t

end Program

/-! ## Logins that are kept -/

/-- On the way from one state to another, on which the lines have been written, all logins are left
alone and none has succeeded, or one has, and the login `i` has another reference and generation. -/
inductive Kept (i : Nat) (s s' : Shared) (lines : List Notice) : Prop
  | same (hlogin : s'.login = s.login) (hlines : ∀ line ∈ lines, ¬line.IsLogin)
  | renewed (ref : String) (generation : Nat)
    (hlogin : s'.login =
      (s.setLogin i { s.login i with ref := some ref, generation := generation }).login)
    (hlines : ∃ line ∈ lines, line.IsLogin)

theorem Kept.append {i : Nat} {s s' s'' : Shared} {lines lines' : List Notice}
    (h : Kept i s s' lines) (h' : Kept i s' s'' lines') : Kept i s s'' (lines ++ lines') := by
  cases h with
  | same hlogin hlines =>
    cases h' with
    | same hlogin' hlines' =>
      exact .same (hlogin'.trans hlogin) (List.forall_mem_append.2 ⟨hlines, hlines'⟩)
    | renewed ref g hlogin' hlines' =>
      obtain ⟨line, hline, hlogsIn⟩ := hlines'
      refine .renewed ref g ?_ ⟨line, List.mem_append_right _ hline, hlogsIn⟩
      simpa [Shared.setLogin, hlogin] using hlogin'
  | renewed ref g hlogin hlines =>
    obtain ⟨line, hline, hlogsIn⟩ := hlines
    have hline' : ∃ line ∈ lines ++ lines', line.IsLogin :=
      ⟨line, List.mem_append_left _ hline, hlogsIn⟩
    cases h' with
    | same hlogin' hlines' => exact .renewed ref g (hlogin'.trans hlogin) hline'
    | renewed ref' g' hlogin' hlines' =>
      refine .renewed ref' g' ?_ hline'
      rw [hlogin']
      funext j
      by_cases hj : j = i <;> simp [Shared.setLogin, hlogin, hj]

/-- Whatever a program does alone, the login `i` is kept. -/
def Program.Keeps (i : Nat) (p : Program α) : Prop :=
  ∀ ⦃σ : Type⦄ (T : Transport σ) (s : Shared) (t : σ),
    Kept i s (p.alone T s t).shared (p.lines T s t)

namespace Program

variable {i : Nat}

theorem keeps_done (a : α) : (done a).Keeps i :=
  fun _ _ _ _ => .same rfl nofun

theorem keeps_bind {p : Program α} {f : α → Program β} (hp : p.Keeps i)
    (hf : ∀ a, (f a).Keeps i) : (p.bind f).Keeps i := by
  intro σ T s t
  rw [alone_bind, lines_bind]
  exact (hp T s t).append (hf _ T _ _)

theorem composes_keeps : Composes (Keeps i) :=
  ⟨keeps_done, keeps_bind⟩

/-- A call to the pool writes no line but that of a redirect. -/
theorem lines_callPool (T : Transport σ) (s : Shared) (t : σ) (method : String)
    (params : List Value) (deadline : Option Duration) :
    ∀ line ∈ (callPool method params deadline).lines T s t, ¬line.IsLogin := by
  rw [callPool, lines, lines]
  cases redirectTarget? (T t ⟨s.client.endpoint, method, params, deadline⟩).1 with
  | none => exact List.forall_mem_nil _
  | some master =>
    dsimp only
    rw [lines_bind, redirect]
    simp [lines, Notice.IsLogin]

theorem keeps_callPool (method : String) (params : List Value) (deadline : Option Duration) :
    (callPool method params deadline).Keeps i :=
  fun _ T s t => .same login_alone_callPool (lines_callPool T s t method params deadline)

end Program

/-! ## Calls -/

section Calls

variable {T : Transport σ} {s : Shared} {t : σ} {h : Session}

/-- A login with the credentials that are stored, if it succeeds, is a line of the log, and renews
the reference and the generation. -/
theorem kept_logIn {c : Credentials} (hc : (s.login h.login).credentials = some c) :
    Kept h.login s ((h.logIn c).alone T s t).shared ((h.logIn c).lines T s t) := by
  have hcall := Program.keeps_callPool (i := h.login) "session.login_with_password"
    (loginParams c) h.deadline T s t
  have hlogin := @login_alone_callPool σ T s t "session.login_with_password" (loginParams c)
    h.deadline
  rw [logIn, Program.andThen, Program.alone_bind, Program.lines_bind]
  generalize (callPool "session.login_with_password" (loginParams c) h.deadline).alone T s t = e
    at hcall hlogin ⊢
  refine hcall.append ?_
  cases e.result with
  | error err => exact Program.keeps_done _ T _ _
  | ok v =>
    cases href : referenceOf "session.login_with_password -> " v with
    | error err => simpa [href, Program.given] using Program.keeps_done _ T _ _
    | ok ref =>
      refine .renewed ref e.shared.client.generation ?_ ?_
      · simp [href, Program.given, bind, pure, Program.bind, Program.notice, Program.setLogin,
          Shared.setLogin, hlogin, ← hc]
      · simp [href, Program.given, bind, pure, Program.bind, Program.notice, Program.setLogin,
          Program.lines, Notice.IsLogin]

end Calls

namespace Program

variable {h : Session}

theorem keeps_logInAgain (generation : Nat) : (h.logInAgain generation).Keeps h.login := by
  intro σ T s t
  have hrelease : ∀ r : Outcome String, (release h.login (done r)).Keeps h.login :=
    fun _ _ _ _ _ => .same rfl nofun
  simp only [logInAgain, alone_acquire, alone_look, lines]
  split
  · exact hrelease _ T s t
  · split
    · exact hrelease _ T s t
    · rename_i c hc
      rw [alone_note, alone_bind, lines, lines_bind]
      have hnote : Kept h.login s s [.loggingInAgain s.client.endpoint c.username] :=
        .same rfl (by simp [Notice.IsLogin])
      exact hnote.append ((kept_logIn hc).append (hrelease _ T _ _))

theorem keeps_call (h : Session) (method : String) (args : List Value) :
    (h.call method args).Keeps h.login := by
  intro σ T s t
  rw [call, alone_look, lines]
  dsimp only
  split
  · exact keeps_done _ T s t
  · refine keeps_bind (keeps_callPool _ _ _) (fun r σ T s t => ?_) T s t
    rw [alone_look, lines]
    split
    · exact composes_keeps.andThen (keeps_logInAgain _) (fun _ => keeps_callPool _ _ _) T s t
    · exact keeps_done _ T s t

theorem keeps_invoke (h : Session) (method : String) (args : List Value)
    (result : Schema.WireType) : (h.invoke method args result).Keeps h.login :=
  composes_keeps.andThen (keeps_call h method args) fun _ =>
    composes_keeps.given fun _ _ => keeps_done _

theorem keeps_run (h : Session) (signature : Api.Signature) (args : List Schema.Datum) :
    (h.run signature args).Keeps h.login :=
  composes_keeps.given fun _ _ =>
    composes_keeps.andThen (keeps_call h _ _) fun _ => composes_keeps.given fun _ _ => keeps_done _

theorem keeps_outcome (h : Session) (result : Schema.WireType) (task label : String) :
    (Task.outcome h result task label).Keeps h.login := by
  refine composes_keeps.andThen (keeps_invoke h _ _ _) fun status => ?_
  split
  · exact keeps_done _
  · exact keeps_done _
  · exact composes_keeps.andThen (keeps_invoke h _ _ _) fun _ => keeps_done _
  · exact composes_keeps.andThen (keeps_invoke h _ _ _) fun _ => keeps_done _
  · exact keeps_done _
  · exact keeps_done _

theorem keeps_waitFor (h : Session) (result : Schema.WireType) (task label : String)
    (interval : Duration) (polls : Nat) :
    (Task.waitFor h result task label interval polls).Keeps h.login := by
  induction polls with
  | zero => exact keeps_done _
  | succ polls ih =>
    refine composes_keeps.andThen (keeps_outcome h result task label) fun found => ?_
    cases found with
    | some d => exact keeps_done _
    | none => exact fun _ T s t => ih T s t

end Program

/-! ## Requests that fail -/

/-- If the program fails, the login `i` is kept. -/
def Program.KeepsIfFails (i : Nat) (p : Program (Outcome α)) : Prop :=
  ∀ ⦃σ : Type⦄ (T : Transport σ) (s : Shared) (t : σ) (e : Error),
    (p.alone T s t).result = .error e → Kept i s (p.alone T s t).shared (p.lines T s t)

namespace Program

variable {i : Nat}

theorem Keeps.ifFails {p : Program (Outcome α)} (hp : p.Keeps i) : p.KeepsIfFails i :=
  fun _ T s t _ _ => hp T s t

theorem keepsIfFails_andThen {p : Program (Outcome α)} {f : α → Program (Outcome β)}
    (hp : p.Keeps i) (hf : ∀ a, (f a).KeepsIfFails i) : (p.andThen f).KeepsIfFails i := by
  intro σ T s t e herr
  rw [andThen, alone_bind] at herr ⊢
  rw [lines_bind]
  refine (hp T s t).append ?_
  cases hresult : (p.alone T s t).result with
  | ok a =>
    rw [hresult] at herr
    exact hf a T _ _ e herr
  | error e => exact keeps_done _ T _ _

theorem keepsIfFails_given {r : Except Schema.CodecError α} {f : α → Program (Outcome β)}
    (hf : ∀ a, (f a).KeepsIfFails i) : (given r f).KeepsIfFails i := by
  cases r with
  | ok a => exact hf a
  | error e => exact (keeps_done _).ifFails

theorem keepsIfFails_void {p : Program (Outcome α)} (hp : p.KeepsIfFails i) :
    p.void.KeepsIfFails i := by
  intro σ T s t e herr
  rw [void, alone_bind] at herr ⊢
  rw [lines_bind]
  cases hresult : (p.alone T s t).result with
  | ok a => simp [hresult, Except.map] at herr
  | error e => simpa [lines] using hp T s t e hresult

/-- A program that does not panic, and fails, among those that may panic. -/
theorem KeepsIfFails.returning {p : Program (Outcome α)} (hp : p.KeepsIfFails i)
    {T : Transport σ} {s : Shared} {t : σ} {e : Error}
    (herr : (p.returning.alone T s t).result = .returned (.error e)) :
    Kept i s (p.returning.alone T s t).shared (p.returning.lines T s t) := by
  rw [Program.returning, alone_bind] at herr ⊢
  rw [lines_bind, lines, List.append_nil]
  exact hp T s t e (Completion.returned.inj herr)

/-- What a program does that cannot fail does not matter. -/
theorem keepsIfFails_of_ok {p : Program (Outcome α)}
    (hp : ∀ ⦃σ : Type⦄ (T : Transport σ) (s : Shared) (t : σ),
      ∃ a, (p.alone T s t).result = .ok a) : p.KeepsIfFails i := by
  intro σ T s t e herr
  obtain ⟨a, ha⟩ := hp T s t
  rw [ha] at herr
  cases herr

variable {h : Session}

theorem keepsIfFails_logIn (c : Credentials) : (h.logIn c).KeepsIfFails h.login :=
  keepsIfFails_andThen (keeps_callPool _ _ _) fun _ =>
    keepsIfFails_given fun ref => keepsIfFails_of_ok fun _ _ _ _ => ⟨ref, rfl⟩

theorem keepsIfFails_logInLocally (username password : String) :
    (h.logInLocally username password).KeepsIfFails h.login := by
  have hcall : ∀ method params deadline, (callHost method params deadline).Keeps h.login :=
    fun _ _ _ _ _ _ _ => .same rfl nofun
  unfold logInLocally
  exact keepsIfFails_andThen (hcall _ _ _) fun _ =>
    keepsIfFails_given fun ref => keepsIfFails_of_ok fun _ _ _ _ => ⟨ref, rfl⟩

theorem keepsIfFails_changePassword (old new : String) :
    (h.changePassword old new).KeepsIfFails h.login :=
  keepsIfFails_andThen (keeps_invoke h _ _ _) fun _ =>
    keepsIfFails_of_ok fun _ _ _ _ => ⟨(), rfl⟩

theorem keepsIfFails_detectVersion : h.detectVersion.KeepsIfFails h.login := by
  refine keepsIfFails_andThen (keeps_invoke h _ _ _) fun pools =>
    keepsIfFails_andThen ?_ fun found => keepsIfFails_of_ok fun _ _ _ _ => ⟨found.1, rfl⟩
  cases pools.asItems with
  | nil => exact keeps_done _
  | cons pool rest =>
    exact composes_keeps.andThen (keeps_invoke h _ _ _) fun _ =>
      composes_keeps.andThen (keeps_invoke h _ _ _) fun _ => keeps_done _

end Program

namespace Session

/-- What a session can be asked for: to log in, or an operation. -/
inductive Request where
  | logIn (c : Credentials)
  | logInLocally (username password : String)
  | operation (op : Operation)

namespace Request

/-- The request on a handle, up to its error. -/
def program (h : Session) : Request → Program (Completion (Outcome Unit))
  | .logIn c => (h.logIn c).void.returning
  | .logInLocally username password => (h.logInLocally username password).void.returning
  | .operation op => op.program h

/-- A request to end the session. -/
def EndsSession : Request → Prop
  | .operation .logOut | .operation .logOutLocally => True
  | _ => False

/-- A request that only makes calls, and remembers nothing of what they are answered. -/
def OnlyCalls : Request → Prop
  | .operation (.call ..) | .operation (.run ..) | .operation (.outcome ..)
  | .operation (.waitFor ..) | .operation (.nextBatch ..) => True
  | _ => False

theorem keeps (h : Session) {r : Request} (hr : r.OnlyCalls) : (r.program h).Keeps h.login := by
  have hreturning {α : Type} {p : Program (Outcome α)} (hp : p.Keeps h.login) :
      p.void.returning.Keeps h.login :=
    Program.composes_keeps.returning (Program.composes_keeps.void hp)
  cases r with
  | logIn c => exact hr.elim
  | logInLocally username password => exact hr.elim
  | operation op =>
    cases op with
    | logOut | logOutLocally | changePassword | detectVersion => exact hr.elim
    | call method args => exact hreturning (Program.keeps_call h method args)
    | run signature args => exact hreturning (Program.keeps_run h signature args)
    | outcome result task label => exact hreturning (Program.keeps_outcome h result task label)
    | waitFor result task label interval morePolls =>
      exact hreturning (Program.keeps_waitFor h result task label interval _)
    | nextBatch classes token wait =>
      dsimp only [program]
      obtain ⟨-, hpanics⟩ | ⟨-, deadline, -, hruns⟩ :=
        Operation.program_nextBatch h classes token wait
      · rw [hpanics]
        exact Program.keeps_done _
      · rw [hruns]
        exact hreturning (Program.keeps_run ⟨h.login, some deadline⟩ _ _)

theorem keepsIfFails (h : Session) {r : Request} (hr : ¬r.EndsSession) {T : Transport σ}
    {s : Shared} {t : σ} {e : Error}
    (herr : ((r.program h).alone T s t).result = .returned (.error e)) :
    Kept h.login s ((r.program h).alone T s t).shared ((r.program h).lines T s t) := by
  cases r with
  | logIn c => exact (Program.keepsIfFails_void (Program.keepsIfFails_logIn c)).returning herr
  | logInLocally username password =>
    have hlogIn := Program.keepsIfFails_logInLocally (h := h) username password
    exact (Program.keepsIfFails_void hlogIn).returning herr
  | operation op =>
    cases op with
    | logOut | logOutLocally => exact absurd trivial hr
    | changePassword old new =>
      exact (Program.keepsIfFails_changePassword old new).returning herr
    | detectVersion =>
      exact (Program.keepsIfFails_void Program.keepsIfFails_detectVersion).returning herr
    | call | run | outcome | waitFor | nextBatch => exact keeps h (by trivial) T s t

end Request

end Session

/-! ## Credentials -/

/-- The pact of a program that keeps a property of the shared state. -/
def keeping (I : Shared → Prop) : Pact where
  rely _ b := I b.world.shared
  guarantee _ b := I b.world.shared

theorem harmony_keeping (I : Shared → Prop) :
    Harmony (fun a => I a.world.shared) fun _ => keeping I where
  refl _ _ h := h
  trans _ _ _ _ _ h := h
  keeps _ _ _ h := h
  turn _ _ _ _ _ h := h

/-- Credentials are stored only beside a reference. -/
def Login.Warranted (l : Login) : Prop :=
  l.credentials.isSome → l.ref.isSome

/-- So it is for all logins. -/
def Shared.Warranted (s : Shared) : Prop :=
  ∀ i, (s.login i).Warranted

/-- The pact of a program that stores no credentials without a reference. -/
abbrev warranting : Pact :=
  keeping Shared.Warranted

/-- A turn that leaves the shared state alone. -/
theorem warranting_quiet {b : Annals} {c : Choice} {w : World} (hb : b.world.shared.Warranted)
    (hw : w.shared = b.world.shared) : warranting.Allows b c w fun _ => True :=
  ⟨show w.shared.Warranted from hw ▸ hb, trivial⟩

/-- Whatever has happened before, the program stores no credentials without a reference. -/
def Program.Warrants (p : Program α) : Prop :=
  ∀ id a, p.Minds warranting id (fun _ _ => True) a

namespace Program

theorem warrants_done (a : α) : (done a).Warrants :=
  fun _ _ => trivial

theorem warrants_look {next : Shared → Program α} (hnext : ∀ s, (next s).Warrants) :
    (look next).Warrants :=
  fun id _ _ hb => .imp (warranting_quiet hb rfl) fun _ => hnext _ id _

theorem warrants_note (line : Notice) {next : Program α} (hnext : next.Warrants) :
    (note line next).Warrants :=
  fun id _ _ hb => .imp (warranting_quiet hb rfl) fun _ => hnext id _

theorem warrants_send (call : Call) {next : Outcome Value → Program α}
    (hnext : ∀ r, (next r).Warrants) : (send call next).Warrants :=
  fun id _ _ hb => .imp (warranting_quiet hb rfl) fun _ _ r hb' =>
    .imp (warranting_quiet hb' rfl) fun _ => hnext r id _

theorem warrants_acquire (i : Nat) {next : Program α} (hnext : next.Warrants) :
    (acquire i next).Warrants :=
  fun id _ _ hb _ => .imp (warranting_quiet hb rfl) fun _ => hnext id _

theorem warrants_release (i : Nat) {next : Program α} (hnext : next.Warrants) :
    (release i next).Warrants :=
  fun id _ _ hb => .imp (warranting_quiet hb rfl) fun _ => hnext id _

theorem warrants_pause (time : Duration) {next : Program α} (hnext : next.Warrants) :
    (pause time next).Warrants :=
  fun id _ _ hb => .imp (warranting_quiet hb rfl) fun _ => hnext id _

theorem warrants_bind {p : Program α} {f : α → Program β} (hp : p.Warrants)
    (hf : ∀ a, (f a).Warrants) : (p.bind f).Warrants :=
  fun id a => minds_bind.2 ((hp id a).imp fun x b _ => hf x id b)

theorem composes_warrants : Composes Warrants :=
  ⟨warrants_done, warrants_bind⟩

theorem warrants_notice (line : Shared → Notice) : (notice line).Warrants :=
  warrants_look fun _ => warrants_note _ (warrants_done _)

/-- A whole login is stored, and the others are left alone. What it was made from is as it was found
in the turn before. -/
theorem warrants_setLogin {i : Nat} {f : Shared → Login}
    (hf : ∀ s, s.Warranted → (f s).Warranted) : (setLogin i f).Warrants := by
  refine fun id a b hb => (warranting_quiet hb rfl).imp fun _ b' hb' => ⟨fun j => ?_, trivial⟩
  by_cases hj : j = i
  · simpa [World.change, Shared.setLogin, hj] using hf _ hb
  · simpa [World.change, Shared.setLogin, hj] using hb' j

theorem warrants_callPool (method : String) (params : List Value) (deadline : Option Duration) :
    (callPool method params deadline).Warrants := by
  intro id a
  have hcarries : warranting.Carries id method params (fun _ => True) fun _ _ => True :=
    { rest := fun _ _ _ hb => warranting_quiet hb rfl
      move := fun _ _ _ _ _ hb => ⟨hb, trivial⟩
      send := fun _ _ _ _ hb _ _ => warranting_quiet hb rfl
      answer := fun _ _ _ _ _ hb => warranting_quiet hb rfl
      error := fun _ _ => Iff.rfl }
  exact hcarries.callPool_minds deadline trivial

variable {h : Session}

theorem warrants_logIn (c : Credentials) : (h.logIn c).Warrants :=
  composes_warrants.andThen (warrants_callPool _ _ _) fun _ => composes_warrants.given fun _ _ =>
    warrants_bind (warrants_notice _) fun _ =>
      warrants_bind (warrants_setLogin fun _ _ _ => rfl) fun _ => warrants_done _

theorem warrants_logInLocally (username password : String) :
    (h.logInLocally username password).Warrants :=
  composes_warrants.andThen (warrants_look fun _ => warrants_send _ warrants_done) fun _ =>
    composes_warrants.given fun _ _ => warrants_bind (warrants_notice _) fun _ =>
      warrants_bind (warrants_setLogin fun _ _ _ => rfl) fun _ => warrants_done _

theorem warrants_logInAgain (generation : Nat) : (h.logInAgain generation).Warrants := by
  have hrelease : ∀ r : Outcome String, (release h.login (done r)).Warrants :=
    fun _ => warrants_release _ (warrants_done _)
  refine warrants_acquire _ (warrants_look fun s => ?_)
  dsimp only
  split
  · exact hrelease _
  · split
    · exact hrelease _
    · exact warrants_note _ (warrants_bind (warrants_logIn _) hrelease)

theorem warrants_call (method : String) (args : List Value) : (h.call method args).Warrants := by
  refine warrants_look fun s => ?_
  dsimp only
  split
  · exact warrants_done _
  · refine warrants_bind (warrants_callPool _ _ _) fun r => warrants_look fun s' => ?_
    split
    · exact composes_warrants.andThen (warrants_logInAgain _) fun _ => warrants_callPool _ _ _
    · exact warrants_done _

/-- The end of a session takes the credentials away along with the reference. -/
theorem warrants_finish (method : String) : (h.finish method).Warrants := by
  have hended : ∀ l : Login, { l with ref := none, credentials := none }.Warranted :=
    fun _ => nofun
  refine warrants_look fun s => ?_
  dsimp only
  split
  · exact warrants_done _
  · refine warrants_bind (warrants_callPool _ _ _) fun r => ?_
    refine warrants_bind (warrants_setLogin fun s _ => hended (s.login h.login)) fun _ => ?_
    refine warrants_bind (warrants_notice _) fun _ => ?_
    split
    · exact warrants_done _
    · split
      · exact warrants_done _
      · exact warrants_done _

end Program

theorem Dialogue.warrants {i : Nat} {asks : String → List Value → Prop} {p : Program α}
    (hp : Dialogue i asks p) : p.Warrants := by
  induction hp with
  | done x => exact Program.warrants_done x
  | call _ _ _ ih => exact Program.warrants_bind (Program.warrants_call _ _) ih
  | finish _ _ _ ih => exact Program.warrants_bind (Program.warrants_finish _) ih
  | pause _ ih => exact Program.warrants_pause _ ih
  | @remember f next href hcredentials _ ih =>
    refine Program.warrants_bind (Program.warrants_setLogin fun s hs => ?_) ih
    rw [Login.Warranted, href, hcredentials]
    exact hs i

theorem Session.Request.warrants (h : Session) (r : Request) : (r.program h).Warrants := by
  cases r with
  | logIn c =>
    exact Program.composes_warrants.returning
      (Program.composes_warrants.void (Program.warrants_logIn c))
  | logInLocally username password =>
    exact Program.composes_warrants.returning
      (Program.composes_warrants.void (Program.warrants_logInLocally username password))
  | operation op => exact (op.dialogue rfl).warrants

/-! ## All requests -/

/-- A login as a session begins with it: fresh, or with a reference that was obtained elsewhere. -/
def Login.IsNew (l : Login) : Prop :=
  l = .fresh ∨ ∃ ref generation, l = { Login.fresh with ref := some ref, generation := generation }

/-- Programs that have not begun, each of them a request on a handle of some login. All logins are
new. -/
structure RequestsOf (s : Crowd (Completion (Outcome Unit))) : Prop where
  threads : ∀ id, ∃ (h : Session) (r : Request), s.threads id = .ready (r.program h)
  logins : ∀ i, (s.annals.world.shared.login i).IsNew

/-- If a request that runs alone fails, and it is not one to end the session, it leaves all logins
as they were, unless the log has a line of a login that succeeded. In that case the login of the
session has another reference and generation, and all else in it, like all other logins, is as it
was. A request that only makes calls does the same if it succeeds or panics. And however requests
are interleaved, from new logins on, those to end the session among them, credentials are stored
only beside a reference. -/
theorem failed_request_keeps_login :
    (∀ {σ : Type} (T : Transport σ) (s : Shared) (t : σ) (h : Session) (r : Request),
      let ending := (r.program h).alone T s t
      let lines := (r.program h).lines T s t
      r.OnlyCalls ∨ ¬r.EndsSession ∧ (∃ e, ending.result = .returned (.error e)) →
        ((∀ line ∈ lines, ¬line.IsLogin) → ending.shared.login = s.login) ∧
        ((∃ line ∈ lines, line.IsLogin) → ∃ ref generation, ending.shared.login =
          (s.setLogin h.login
            { s.login h.login with ref := some ref, generation := generation }).login)) ∧
    ∀ {s s' : Crowd (Completion (Outcome Unit))} {cs : List Choice}, RequestsOf s →
      s.run cs = some s' → ∀ i, (s'.annals.world.shared.login i).credentials.isSome →
        (s'.annals.world.shared.login i).ref.isSome := by
  constructor
  · intro σ T s t h r ending lines hr
    have hkept : Kept h.login s ending.shared lines := by
      obtain hcalls | ⟨hends, e, herr⟩ := hr
      · exact Request.keeps h hcalls T s t
      · exact Request.keepsIfFails h hends herr
    cases hkept with
    | same hlogin hlines =>
      refine ⟨fun _ => hlogin, ?_⟩
      rintro ⟨line, hline, hlogsIn⟩
      exact absurd hlogsIn (hlines line hline)
    | renewed ref g hlogin hlines =>
      refine ⟨fun hnone => ?_, fun _ => ⟨ref, g, hlogin⟩⟩
      obtain ⟨line, hline, hlogsIn⟩ := hlines
      exact absurd hlogsIn (hnone line hline)
  · intro s s' cs hs hrun
    have hnew : s.annals.world.shared.Warranted := by
      intro i
      obtain hfresh | ⟨ref, g, hresumed⟩ := hs.logins i
      · simp [Login.Warranted, hfresh, Login.fresh]
      · simp [Login.Warranted, hresumed]
    have hminds : s.Minds fun _ => warranting := by
      intro id
      obtain ⟨h, r, hthread⟩ := hs.threads id
      rw [hthread]
      exact r.warrants h id _
    exact (Crowd.run_minds (harmony_keeping _) hnew hminds hrun).1

/-- The pool at `a`, and a login with credentials from before its master moved away. -/
def movedMaster : Shared :=
  (Shared.initial (.ofHost "a" true) none).setLogin 0
    { Login.fresh with ref := some "old", credentials := some (.ofUser "root" "secret" none) }

/-- Requests on one login that nobody has used yet. -/
def threeRequests : Crowd (Completion (Outcome Unit)) where
  annals := ⟨⟨.initial (.ofHost "a" true) none, fun _ => none, []⟩, []⟩
  threads
    | 0 => .ready (Request.program ⟨0, none⟩ (.logIn (.ofUser "root" "secret" none)))
    | 1 => .ready (Request.program ⟨0, none⟩ (.operation (.changePassword "secret" "other")))
    | _ => .ready (Request.program ⟨0, none⟩ (.operation .logOut))

/-- A change of the password logs in again, and is refused all the same: the old password stays. A
version that is half detected is not remembered. After a login among other requests, its credentials
are stored beside its reference. -/
theorem failed_request_keeps_login_moved :
    (let refused : Outcome Value := .error (.server (.ofInfo ["SESSION_AUTHENTICATION_FAILED"]))
      let invalid : Outcome Value := .error (.server (.ofInfo [Api.sessionInvalid, "old"]))
      let change : Request := .operation (.changePassword "secret" "other")
      let ending := (change.program ⟨0, none⟩).alone scripted movedMaster
        [refusal "b", invalid, .ok (.string "new"), refused]
      (∃ e, ending.result = .returned (.error e)) ∧ ∃ ref generation, ending.shared.login =
        (movedMaster.setLogin 0
          { movedMaster.login 0 with ref := some ref, generation := generation }).login) ∧
    (let detect : Request := .operation .detectVersion
      let ending := (detect.program ⟨0, none⟩).alone scripted movedMaster
        [.ok (.array [.string "pool"]), .ok .nil]
      (∃ e, ending.result = .returned (.error e)) ∧ ending.shared.login = movedMaster.login) ∧
    ∃ s, threeRequests.run ([.go 0, .go 0, .answer 0 (.ok (.string "new"))] ++
        List.replicate 4 (.go 0)) = some s ∧
      (s.annals.world.shared.login 0).credentials.isSome ∧
      (s.annals.world.shared.login 0).ref.isSome := by
  obtain ⟨halone, hcrowd⟩ := failed_request_keeps_login
  refine ⟨?_, ?_, ?_⟩
  · intro refused invalid change ending
    have herr : ∃ e, ending.result = .returned (.error e) := ⟨_, rfl⟩
    obtain ⟨-, hrenewed⟩ := halone scripted movedMaster
      [refusal "b", invalid, .ok (.string "new"), refused] ⟨0, none⟩ change (.inr ⟨nofun, herr⟩)
    have hline : ∃ line ∈ (change.program ⟨0, none⟩).lines scripted movedMaster
        [refusal "b", invalid, .ok (.string "new"), refused], line.IsLogin :=
      ⟨.loggedIn (.ofHost "b" true) defaultOriginator "root",
        .tail _ (.tail _ (.head _)), trivial⟩
    exact ⟨herr, hrenewed hline⟩
  · intro detect ending
    have herr : ∃ e, ending.result = .returned (.error e) := ⟨_, rfl⟩
    obtain ⟨hsame, -⟩ := halone scripted movedMaster
      [.ok (.array [.string "pool"]), .ok .nil] ⟨0, none⟩ detect (.inr ⟨nofun, herr⟩)
    exact ⟨herr, hsame nofun⟩
  · have hs : RequestsOf threeRequests :=
      { threads := by
          rintro (_ | _ | id)
          · exact ⟨⟨0, none⟩, _, rfl⟩
          · exact ⟨⟨0, none⟩, _, rfl⟩
          · exact ⟨⟨0, none⟩, _, rfl⟩
        logins := fun _ => .inl rfl }
    obtain ⟨s, hrun, hcredentials⟩ : ∃ s, threeRequests.run
        ([.go 0, .go 0, .answer 0 (.ok (.string "new"))] ++ List.replicate 4 (.go 0)) = some s ∧
          (s.annals.world.shared.login 0).credentials.isSome :=
      ⟨_, rfl, rfl⟩
    exact ⟨s, hrun, hcredentials, hcrowd hs hrun 0 hcredentials⟩

end PoolClient
