import Mathlib.Data.List.TakeWhile
import PoolClient.Proofs.Alone
import PoolClient.Session.Session
/-!
# Failover

The hosts of a pool (`Pool`) take turns at being master. The master answers calls and knows the
references that it has issued itself, and every other host names the master. A session that has
logged in with a password does not notice: between two moves of the master, `Connected` ties the
generation it remembers to the host that has issued its reference, and every call gives what the
pool itself answers (`call_answers`).
-/

namespace PoolClient

open Time

/-! ## Names of hosts -/

/-- A name that is a host as a whole, without a port or brackets. -/
def IsHostName (name : String) : Prop :=
  name ≠ "" ∧ ∀ c ∈ name.toList, c ≠ ':' ∧ c ≠ '[' ∧ c ≠ ']'

-- The instance for lists is named: another one in scope would try every character there is.
instance (name : String) : Decidable (IsHostName name) :=
  @instDecidableAnd _ _ inferInstance (List.decidableBAll _ name.toList)

namespace Endpoint

theorem splitFirst_eq_none {mark : Char} {cs : List Char} (h : ∀ c ∈ cs, c ≠ mark) :
    splitFirst mark cs = none := by
  have hdrop : cs.dropWhile (· != mark) = [] := by
    rw [List.dropWhile_eq_nil_iff]
    intro c hc
    simpa using h c hc
  rw [splitFirst, hdrop]

theorem splitAddress_of_name {cs : List Char} (h : ∀ c ∈ cs, c ≠ ':' ∧ c ≠ '[' ∧ c ≠ ']') :
    splitAddress cs = (cs, none) := by
  have hplain : splitPlain cs = (cs, none) := by
    rw [splitPlain, splitFirst_eq_none fun c hc => (h c hc).1]
  unfold splitAddress
  split
  · exact absurd rfl (h '[' (by simp)).2.1
  · exact hplain

/-- A plain name takes the place of the host, and nothing else changes. -/
theorem withHost_of_name (e : Endpoint) {name : String} (h : IsHostName name) :
    e.withHost name = { e with host := name } := by
  simp [withHost, splitAddress_of_name h.2]

end Endpoint

/-! ## Pools -/

/-- The method that logs in. -/
def loginMethod : String :=
  "session.login_with_password"

/-- A pool: its hosts, the references it has in store for logins, and what its master does with
a call. -/
structure Pool where
  hosts : List String
  names : ∀ host ∈ hosts, IsHostName host
  fresh : Nat → String
  handler : String → List Value → Except ServerError Value
  handler_code : ∀ method args e, handler method args = .error e →
    e.code ≠ Api.hostIsSlave ∧ e.code ≠ Api.sessionInvalid

namespace Pool

/-- A host of the pool. -/
abbrev Host (pool : Pool) :=
  { host // host ∈ pool.hosts }

/-- A pool in time: who is master, which references each host has issued, and how many logins
there have been. -/
structure State (pool : Pool) where
  master : pool.Host
  issued : String → List String
  logins : Nat

variable {pool : Pool}

/-- The master issues the next reference. -/
def State.issue (p : pool.State) : pool.State :=
  { p with
    issued := fun host =>
      if host = p.master then pool.fresh p.logins :: p.issued host else p.issued host
    logins := p.logins + 1 }

/-- What the master answers. -/
def State.ask (p : pool.State) (method : String) (params : List Value) :
    Outcome Value × pool.State :=
  if method = loginMethod then (.ok (.string (pool.fresh p.logins)), p.issue)
  else
    match params with
    | .string ref :: args =>
      if ref ∈ p.issued p.master then ((pool.handler method args).mapError .server, p)
      else (.error (.server (.new Api.sessionInvalid [ref])), p)
    | _ => (.error (.server (.new Api.sessionInvalid [])), p)

/-- The pool as a transport. All hosts but the master refuse every call and name the master, and
there is nobody outside the pool. -/
def transport (pool : Pool) : Transport pool.State := fun p call =>
  if call.endpoint.host = p.master then p.ask call.method call.params
  else if call.endpoint.host ∈ pool.hosts then
    (.error (.server (.new Api.hostIsSlave [p.master])), p)
  else (.error (.transport .http), p)

/-- Whether this is what the pool itself makes of a call: a new reference for a login, and for
all else what its handler gives. -/
def Answers (pool : Pool) (method : String) (args : List Value) (result : Outcome Value) :
    Prop :=
  if method = loginMethod then ∃ n, result = .ok (.string (pool.fresh n))
  else result = (pool.handler method args).mapError .server

end Pool

/-- An error by which a caller notices that the master has moved. -/
inductive TellsOfMove : Error → Prop where
  | refused (e : ServerError) (h : e.code = Api.hostIsSlave) : TellsOfMove (.server e)
  | unknown (e : ServerError) (h : e.code = Api.sessionInvalid) : TellsOfMove (.server e)
  | refusedAgain (master : String) : TellsOfMove (.transport (.tooManyRedirects master))

/-- Whether a login has succeeded. -/
def Deed.isLogin : Deed → Bool
  | .sent call (.ok _) => call.method == loginMethod
  | _ => false

/-- The number of logins among the deeds of a program. -/
def logins (ds : List Deed) : Nat :=
  ds.countP Deed.isLogin

@[simp] theorem logins_nil : logins [] = 0 :=
  rfl

@[simp] theorem logins_append (ds ds' : List Deed) : logins (ds ++ ds') = logins ds + logins ds' :=
  List.countP_append

/-! ## Calls to the master -/

/-- The state after the active endpoint has moved to a host, unless it is there already. -/
def Shared.follow (s : Shared) (host : String) : Shared :=
  if s.client.endpoint.host = host then s
  else s.moveTo { s.client.endpoint with host := host }

namespace Shared

variable {s : Shared} {host : String}

@[simp] theorem login_follow : (s.follow host).login = s.login := by
  unfold follow
  split <;> rfl

@[simp] theorem host_follow : (s.follow host).client.endpoint.host = host := by
  unfold follow
  split
  · assumption
  · rfl

theorem follow_of_eq (h : s.client.endpoint.host = host) : s.follow host = s :=
  if_pos h

/-- The generation tells whether the active endpoint has moved. -/
theorem generation_follow (s : Shared) (host : String) :
    (s.follow host).client.generation = s.client.generation ∧ s.client.endpoint.host = host ∨
      (s.follow host).client.generation = s.client.generation + 1 := by
  unfold follow
  split
  · exact .inl ⟨rfl, ‹_›⟩
  · exact .inr rfl

end Shared

namespace Pool

variable {pool : Pool} {p : pool.State} {s : Shared} {method : String} {params args : List Value}
  {ref : String} {deadline : Option Duration}

/-- The handler of the pool never refuses as another host would. -/
theorem redirectTarget?_handler :
    redirectTarget? ((pool.handler method args).mapError .server) = none := by
  cases h : pool.handler method args with
  | ok v => rfl
  | error e =>
    have hcode := (pool.handler_code method args e h).1
    simp [Except.mapError, redirectTarget?, hcode]

theorem secondAnswer_handler {master : String} :
    secondAnswer master ((pool.handler method args).mapError .server) =
      (pool.handler method args).mapError .server := by
  cases h : pool.handler method args with
  | ok v => rfl
  | error e =>
    have hcode := (pool.handler_code method args e h).1
    simp [Except.mapError, secondAnswer, hcode]

/-- That it does not know the session is no refusal of the master to answer. -/
theorem redirectTarget?_sessionInvalid {params : List String} :
    redirectTarget? (.error (.server (.new Api.sessionInvalid params))) = none :=
  rfl

theorem secondAnswer_sessionInvalid {master : String} {params : List String} :
    secondAnswer master (.error (.server (.new Api.sessionInvalid params))) =
      .error (.server (.new Api.sessionInvalid params)) :=
  rfl

theorem ask_login : p.ask loginMethod params = (.ok (.string (pool.fresh p.logins)), p.issue) :=
  if_pos rfl

theorem ask_of_mem (hmethod : method ≠ loginMethod) (href : ref ∈ p.issued p.master) :
    p.ask method (.string ref :: args) = ((pool.handler method args).mapError .server, p) := by
  simp [State.ask, hmethod, href]

theorem ask_of_not_mem (hmethod : method ≠ loginMethod) (href : ref ∉ p.issued p.master) :
    p.ask method (.string ref :: args) =
      (.error (.server (.new Api.sessionInvalid [ref])), p) := by
  simp [State.ask, hmethod, href]

/-- The master never names a master. -/
theorem redirectTarget?_ask : redirectTarget? (p.ask method params).1 = none := by
  unfold State.ask
  split
  · rfl
  · split
    · split
      · exact redirectTarget?_handler
      · exact redirectTarget?_sessionInvalid
    · exact redirectTarget?_sessionInvalid

theorem secondAnswer_ask {master : String} :
    secondAnswer master (p.ask method params).1 = (p.ask method params).1 := by
  unfold State.ask
  split
  · rfl
  · split
    · split
      · exact secondAnswer_handler
      · exact secondAnswer_sessionInvalid
    · exact secondAnswer_sessionInvalid

/-- A call to a pool arrives at the master, and the active endpoint follows it there. -/
theorem alone_callPool (p : pool.State) (method : String) (params : List Value)
    (deadline : Option Duration) (hhost : s.client.endpoint.host ∈ pool.hosts) :
    ∃ ds, (callPool method params deadline).alone pool.transport s p =
        ⟨(p.ask method params).1, s.follow p.master, (p.ask method params).2, ds⟩ ∧
      logins ds = if method = loginMethod then 1 else 0 := by
  have hlogins : ∀ e d, logins [.sent ⟨e, method, params, d⟩ (p.ask method params).1] =
      if method = loginMethod then 1 else 0 := by
    intro e d
    by_cases hmethod : method = loginMethod
    · subst hmethod
      simp [ask_login, logins, Deed.isLogin]
    · cases hask : (p.ask method params).1 <;> simp [logins, Deed.isLogin, hmethod]
  by_cases hmaster : s.client.endpoint.host = p.master
  · have hanswer : pool.transport p ⟨s.client.endpoint, method, params, deadline⟩ =
        p.ask method params := if_pos hmaster
    refine ⟨_, ?_, hlogins s.client.endpoint deadline⟩
    rw [alone_callPool_of_none hanswer redirectTarget?_ask, Shared.follow_of_eq hmaster]
  · have hname := pool.names _ p.master.2
    have hrefused : pool.transport p ⟨s.client.endpoint, method, params, deadline⟩ =
        (.error (.server (.new Api.hostIsSlave [p.master])), p) := by
      simp [transport, hmaster, hhost]
    have htarget : redirectTarget? (.error (.server (.new Api.hostIsSlave [p.master]))) =
        some p.master.1 := by
      have hempty : p.master.1.isEmpty = false := by simpa using hname.1
      simp [redirectTarget?, ServerError.new, hempty]
    have hanswer : pool.transport p
        ⟨s.client.endpoint.withHost p.master, method, params, deadline⟩ =
          p.ask method params := by
      rw [Endpoint.withHost_of_name _ hname]
      exact if_pos rfl
    rw [alone_callPool_of_some hrefused htarget hanswer, secondAnswer_ask,
      Endpoint.withHost_of_name _ hname, Shared.follow, if_neg hmaster]
    exact ⟨_, rfl, hlogins { s.client.endpoint with host := p.master } deadline⟩

/-- A login to a pool stores a reference that the master has just issued. -/
theorem alone_logIn (p : pool.State) (h : Session) (c : Credentials)
    (hhost : s.client.endpoint.host ∈ pool.hosts) :
    ∃ ds, (h.logIn c).alone pool.transport s p =
        ⟨.ok (pool.fresh p.logins),
          (s.follow p.master).setLogin h.login
            ((s.login h.login).renewed (pool.fresh p.logins)
              (s.follow p.master).client.generation c),
          p.issue, ds⟩ ∧
      logins ds = 1 := by
  obtain ⟨ds, hcall, hlogins⟩ :=
    alone_callPool p loginMethod (Session.loginParams c) h.deadline hhost
  rw [ask_login] at hcall
  refine ⟨ds, ?_, hlogins⟩
  rw [Session.alone_logIn_of_ok hcall rfl, Shared.login_follow]

end Pool

/-! ## Sessions that do not notice -/

/-- A session is logged in to the pool: it can log in again, and if the active endpoint has not
moved since its login, the host there has issued its reference. -/
structure Connected {pool : Pool} (i : Nat) (s : Shared) (p : pool.State) : Prop where
  host : s.client.endpoint.host ∈ pool.hosts
  credentials : ∃ c, (s.login i).credentials = some c
  generation : (s.login i).generation ≤ s.client.generation
  ref : ∃ ref, (s.login i).ref = some ref ∧
    ((s.login i).generation = s.client.generation → ref ∈ p.issued s.client.endpoint.host)

variable {pool : Pool} {p : pool.State} {s : Shared} {i : Nat} {method : String}
  {args : List Value}

namespace Pool

theorem mem_issued_issue {ref host : String} (h : ref ∈ p.issued host) :
    ref ∈ p.issue.issued host := by
  simp only [State.issue]
  split
  · exact List.mem_cons_of_mem _ h
  · exact h

theorem fresh_mem_issued_issue : pool.fresh p.logins ∈ p.issue.issued p.master := by
  simp [State.issue]

/-- Whatever the master is asked, it knows the references that it knew. -/
theorem mem_issued_ask {ref host : String} {params : List Value} (h : ref ∈ p.issued host) :
    ref ∈ (p.ask method params).2.issued host := by
  unfold State.ask
  split
  · exact mem_issued_issue h
  · split
    · split <;> exact h
    · exact h

end Pool

namespace Connected

/-- A session that follows its pool to the master is still logged in to the pool. -/
theorem follow (h : Connected i s p) {p' : pool.State}
    (hp' : ∀ ref host, ref ∈ p.issued host → ref ∈ p'.issued host) :
    Connected i (s.follow p.master) p' := by
  obtain ⟨ref, href, hissued⟩ := h.ref
  have hle := h.generation
  refine ⟨by simp [p.master.2], by simpa using h.credentials, ?_, ref, by simpa using href, ?_⟩
  · rw [Shared.login_follow]
    rcases s.generation_follow p.master with ⟨hsame, -⟩ | hmoved <;> omega
  · rw [Shared.login_follow, Shared.host_follow]
    intro hgeneration
    rcases s.generation_follow p.master with ⟨hsame, hhost⟩ | hmoved
    · rw [← hhost]
      exact hp' ref _ (hissued (hgeneration.trans hsame))
    · omega

/-- A session that has just logged in to the master is logged in to the pool. -/
theorem renewed {l : Login} {c : Credentials} (hhost : s.client.endpoint.host = p.master) :
    Connected i (s.setLogin i (l.renewed (pool.fresh p.logins) s.client.generation c))
      p.issue := by
  have hlogin : ∀ l, (s.setLogin i l).login i = l := fun l => by simp [Shared.setLogin]
  refine ⟨?_, ⟨c, by rw [hlogin]; rfl⟩, by rw [hlogin]; exact Nat.le_refl _,
    pool.fresh p.logins, by rw [hlogin]; rfl, fun _ => ?_⟩
  · exact hhost ▸ p.master.2
  · exact hhost ▸ Pool.fresh_mem_issued_issue

/-- A session that is told by the master that it is not known has not logged in since the master
has moved. -/
theorem generation_follow_ne (h : Connected i s p) {ref : String}
    (href : (s.login i).ref = some ref) (hmem : ref ∉ p.issued p.master) :
    (s.follow p.master).client.generation ≠ (s.login i).generation := by
  obtain ⟨ref', href', hissued⟩ := h.ref
  obtain rfl : ref = ref' := Option.some.inj (href.symm.trans href')
  have hle := h.generation
  intro heq
  rcases s.generation_follow p.master with ⟨hsame, hhost⟩ | hmoved
  · exact hmem (hhost ▸ hissued (heq.symm.trans hsame))
  · omega

/-- A session that has logged in to a pool is logged in to it, as long as the master stays. -/
theorem of_alone_logIn (p : pool.State) (h : Session) (c : Credentials)
    (hhost : s.client.endpoint.host ∈ pool.hosts) :
    let e := (h.logIn c).alone pool.transport s p
    (∃ ref, e.result = .ok ref) ∧ Connected h.login e.shared e.transport ∧ logins e.deeds = 1 := by
  obtain ⟨ds, he, hlogins⟩ := Pool.alone_logIn p h c hhost
  rw [he]
  exact ⟨⟨_, rfl⟩, renewed Shared.host_follow, hlogins⟩

/-- A session stays logged in to the pool when another host becomes master. -/
theorem promote (h : Connected i s p) (host : pool.Host) :
    Connected i s { p with master := host } :=
  ⟨h.host, h.credentials, h.generation, h.ref⟩

end Connected

/-! ## Calls -/

/-- The answer to a call of a session that the master knows, or that logs in with it. -/
theorem answers_ask {ref : String} (href : method = loginMethod ∨ ref ∈ p.issued p.master) :
    pool.Answers method args (p.ask method (.string ref :: args)).1 := by
  unfold Pool.Answers
  by_cases hmethod : method = loginMethod
  · rw [if_pos hmethod, hmethod, Pool.ask_login]
    exact ⟨_, rfl⟩
  · rw [if_neg hmethod, Pool.ask_of_mem hmethod (href.resolve_left hmethod)]

/-- What the pool makes of a call does not tell where its master is. -/
theorem not_tellsOfMove_of_answers {result : Outcome Value} {e : Error}
    (hresult : pool.Answers method args result) (he : result = .error e) : ¬ TellsOfMove e := by
  subst he
  unfold Pool.Answers at hresult
  split at hresult
  · obtain ⟨n, hn⟩ := hresult
    cases hn
  · cases hhandler : pool.handler method args with
    | ok v =>
      rw [hhandler] at hresult
      cases hresult
    | error e =>
      rw [hhandler] at hresult
      cases hresult
      obtain ⟨hslave, hinvalid⟩ := pool.handler_code method args e hhandler
      rintro (⟨_, h⟩ | ⟨_, h⟩ | _)
      · exact hslave h
      · exact hinvalid h

/-- An answer of the pool is no reason to log in again. -/
theorem worthLoggingIn_of_answers {h : Session} {generation : Nat} {result : Outcome Value}
    (hresult : pool.Answers method args result) :
    h.worthLoggingIn generation s result = false := by
  unfold Pool.Answers at hresult
  split at hresult
  · obtain ⟨n, rfl⟩ := hresult
    rfl
  · cases hhandler : pool.handler method args with
    | ok v => rw [hresult, hhandler]; rfl
    | error e =>
      have hcode : (e.code == Api.sessionInvalid) = false :=
        beq_false_of_ne (pool.handler_code method args e hhandler).2
      rw [hresult, hhandler]
      simp [Except.mapError, Session.worthLoggingIn, Error.isServerCode, hcode]

section

variable {h : Session} {ref method : String} {args : List Value}

/-- If the master knows the reference of the session, one attempt is enough. -/
theorem Connected.alone_call_of_known (hs : Connected h.login s p)
    (href : (s.login h.login).ref = some ref)
    (hknown : method = loginMethod ∨ ref ∈ p.issued p.master) :
    let e := (h.call method args).alone pool.transport s p
    pool.Answers method args e.result ∧ logins e.deeds ≤ 1 ∧
      Connected h.login e.shared e.transport := by
  obtain ⟨ds, hfirst, hlogins⟩ :=
    Pool.alone_callPool p method (.string ref :: args) h.deadline hs.host
  rw [Session.alone_call href hfirst]
  have hanswers : pool.Answers method args (p.ask method (.string ref :: args)).1 :=
    answers_ask hknown
  simp only [worthLoggingIn_of_answers hanswers]
  refine ⟨hanswers, ?_, hs.follow fun _ _ => Pool.mem_issued_ask⟩
  simp only [Bool.false_eq_true, if_false, hlogins]
  split <;> omega

/-- If it does not, the active endpoint has moved since the login, and the session logs in again. -/
theorem Connected.alone_call_of_unknown (hs : Connected h.login s p)
    (href : (s.login h.login).ref = some ref) (hmethod : method ≠ loginMethod)
    (hmem : ref ∉ p.issued p.master) :
    let e := (h.call method args).alone pool.transport s p
    pool.Answers method args e.result ∧ logins e.deeds ≤ 1 ∧
      Connected h.login e.shared e.transport := by
  obtain ⟨c, hc⟩ := hs.credentials
  obtain ⟨ds, hfirst, hlogins⟩ :=
    Pool.alone_callPool p method (.string ref :: args) h.deadline hs.host
  rw [Session.alone_call href hfirst]
  have hworth : h.worthLoggingIn (s.login h.login).generation (s.follow p.master)
      (.error (.server (.new Api.sessionInvalid [ref]))) = true := by
    have hne := hs.generation_follow_ne href hmem
    simp [Session.worthLoggingIn, Error.isServerCode, ServerError.new, hne, hc]
  have hconnected : Connected h.login (s.follow p.master) p := hs.follow fun _ _ => id
  obtain ⟨hok, hs', hlogins'⟩ := Connected.of_alone_logIn p h c hconnected.host
  obtain ⟨ds', hlogin, -⟩ := Pool.alone_logIn p h c hconnected.host
  have hagain : (h.logInAgain (s.login h.login).generation).alone pool.transport
      (s.follow p.master) p = (h.logIn c).alone pool.transport (s.follow p.master) p := by
    have hc' : ((s.follow p.master).login h.login).credentials = some c := by
      rw [Shared.login_follow, hc]
    simpa using Session.alone_logInAgain (T := pool.transport) (t := p) hc'
  rw [hlogin] at hs' hlogins' hagain
  obtain ⟨ds'', hlast, hlogins''⟩ := Pool.alone_callPool p.issue method
    (.string (pool.fresh p.logins) :: args) h.deadline hs'.host
  simp only [Pool.ask_of_not_mem hmethod hmem, hworth, if_true]
  rw [Program.alone_andThen_of_ok (by rw [hagain]), hagain, hlast]
  refine ⟨answers_ask (.inr Pool.fresh_mem_issued_issue), ?_,
    hs'.follow fun _ _ => Pool.mem_issued_ask⟩
  rw [if_neg hmethod] at hlogins hlogins''
  simp only [Ending.deeds_after, logins_append, hlogins, hlogins', hlogins'']
  decide

/-- A call of a session that is logged in to the pool gives what the pool makes of it, with at
most one login, and leaves the session logged in. -/
theorem Connected.alone_call (hs : Connected h.login s p) (method : String) (args : List Value) :
    let e := (h.call method args).alone pool.transport s p
    pool.Answers method args e.result ∧ logins e.deeds ≤ 1 ∧
      Connected h.login e.shared e.transport := by
  obtain ⟨ref, href, -⟩ := hs.ref
  by_cases hknown : method = loginMethod ∨ ref ∈ p.issued p.master
  · exact hs.alone_call_of_known href hknown
  · obtain ⟨hmethod, hmem⟩ := not_or.1 hknown
    exact hs.alone_call_of_unknown href hmethod hmem

end

/-! ## Runs of calls while the master moves -/

/-- What can happen next: another host becomes master, or the session calls a method. -/
inductive Pool.Move (pool : Pool) where
  | promote (host : pool.Host)
  | call (deadline : Option Duration) (method : String) (args : List Value)

/-- What a move does to the client and the pool. -/
def Pool.play {pool : Pool} (i : Nat) (w : Shared × pool.State) : pool.Move → Shared × pool.State
  | .promote host => (w.1, { w.2 with master := host })
  | .call deadline method args =>
    let e := (Session.call ⟨i, deadline⟩ method args).alone pool.transport w.1 w.2
    (e.shared, e.transport)

/-- A session stays logged in to the pool, whatever the moves. -/
theorem Connected.foldl_play {w : Shared × pool.State} (moves : List pool.Move)
    (h : Connected i w.1 w.2) :
    Connected i (moves.foldl (Pool.play i) w).1 (moves.foldl (Pool.play i) w).2 := by
  induction moves generalizing w with
  | nil => exact h
  | cons move moves ih =>
    refine ih ?_
    cases move with
    | promote host => exact h.promote host
    | call deadline method args =>
      exact (Connected.alone_call (h := ⟨i, deadline⟩) h method args).2.2

/-- A session that logs in with a password to any host of a pool is logged in. After any moves of
the master and any calls, a call gives what the pool makes of it, does not tell of the moves, and
logs in at most once. -/
theorem call_answers (h : Session) (c : Credentials) (p : pool.State)
    (hhost : s.client.endpoint.host ∈ pool.hosts) :
    let login := (h.logIn c).alone pool.transport s p
    (∃ ref, login.result = .ok ref) ∧ logins login.deeds = 1 ∧
      ∀ (moves : List pool.Move) (deadline : Option Duration) (method : String)
        (args : List Value),
        let w := moves.foldl (Pool.play h.login) (login.shared, login.transport)
        let e := (Session.call ⟨h.login, deadline⟩ method args).alone pool.transport w.1 w.2
        pool.Answers method args e.result ∧ (∀ err, e.result = .error err → ¬ TellsOfMove err) ∧
          logins e.deeds ≤ 1 := by
  obtain ⟨hok, hs, hlogins⟩ := Connected.of_alone_logIn p h c hhost
  refine ⟨hok, hlogins, fun moves deadline method args => ?_⟩
  have hmoved := hs.foldl_play (w := (_, _)) moves
  obtain ⟨hanswers, honce, -⟩ :=
    Connected.alone_call (h := ⟨h.login, deadline⟩) hmoved method args
  exact ⟨hanswers, fun _ => not_tellsOfMove_of_answers hanswers, honce⟩

/-- A pool of two hosts that answers each call with the name of its method. -/
def twoHosts : Pool where
  hosts := ["a", "b"]
  names := by decide
  fresh n := String.ofList (List.replicate n 'r')
  handler method _ := .ok (.string method)
  handler_code _ _ _ h := by cases h

/-- A login to the host that is not master, and a call after the master has moved there and
back. -/
theorem call_answers_two_hosts :
    let a : twoHosts.Host := ⟨"a", by decide⟩
    let b : twoHosts.Host := ⟨"b", by decide⟩
    let login := (Session.logIn ⟨0, none⟩ ⟨"root", "pw", "1.0", "me"⟩).alone twoHosts.transport
      (.initial (.ofHost "b" true) none) ⟨a, fun _ => [], 0⟩
    let w := [.promote b, .call none "VM.get_all" [], .promote a].foldl (twoHosts.play 0)
      (login.shared, login.transport)
    let e := (Session.call ⟨0, none⟩ "host.get_all" []).alone twoHosts.transport w.1 w.2
    e.result = .ok (.string "host.get_all") ∧ logins e.deeds ≤ 1 := by
  intro a b login w e
  have hhost : (Shared.initial (.ofHost "b" true) none).client.endpoint.host ∈ twoHosts.hosts :=
    b.2
  obtain ⟨-, -, hcalls⟩ := call_answers ⟨0, none⟩ ⟨"root", "pw", "1.0", "me"⟩
    ⟨a, fun _ => [], 0⟩ hhost
  obtain ⟨hanswers, -, honce⟩ := hcalls
    [.promote b, .call none "VM.get_all" [], .promote a] none "host.get_all" []
  refine ⟨?_, honce⟩
  rw [Pool.Answers, if_neg (by decide)] at hanswers
  exact hanswers

end PoolClient
