import Mathlib.Tactic.ByContra
import PoolClient.Proofs.Redirection
/-!
# Calls that share a redirect

Any number of calls are sent to one endpoint first, and no other program runs. Their answers may
come in any order, and name different masters. The calls share one move of the active endpoint, to
the master that the first refusal names, and each refused call is sent once more, to its own master
(`client_of_shared_refusal`). Between an answer and the next attempt, a call touches nothing that
is shared but the active endpoint, and that only once, so the order of the answers is the order in
which they take effect.

`Caller` tells how far a call can have come by what has happened to it, and `Sharing` is what every
turn keeps: each call has come as far as its events tell, and the client follows the first refusal.
-/

namespace PoolClient

/-! ## What has happened to calls -/

/-- The program that an event is about. -/
def Event.id : Event → Nat
  | .sent id _ => id
  | .answered id _ _ => id

@[simp] theorem Event.id_sent (id : Nat) (call : Call) : (Event.sent id call).id = id :=
  rfl

@[simp] theorem Event.id_answered (id : Nat) (call : Call) (r : Outcome Value) :
    (Event.answered id call r).id = id :=
  rfl

/-- The call that has been sent. -/
def Event.call? : Event → Option Call
  | .sent _ call => some call
  | .answered .. => none

/-- The master that the endpoint has named in an answer. -/
def Event.masterNamedBy (e : Endpoint) : Event → Option String
  | .sent .. => none
  | .answered _ call r => if call.endpoint = e then redirectTarget? r else none

namespace World

/-- What has happened to the calls of a program, the last first. -/
def eventsOf (w : World) (id : Nat) : List Event :=
  w.history.filter (·.id = id)

/-- The calls that a program has sent, in their order. -/
def attempts (w : World) (id : Nat) : List Call :=
  (w.eventsOf id).reverse.filterMap Event.call?

/-- The master that the endpoint has named first. -/
def firstMaster (w : World) (e : Endpoint) : Option String :=
  w.history.reverse.findSome? (Event.masterNamedBy e)

@[simp] theorem eventsOf_record (w : World) (event : Event) (id : Nat) :
    (w.record event).eventsOf id =
      if event.id = id then event :: w.eventsOf id else w.eventsOf id := by
  simp [eventsOf, record, List.filter_cons]

@[simp] theorem firstMaster_record (w : World) (event : Event) (e : Endpoint) :
    (w.record event).firstMaster e = (w.firstMaster e).or (event.masterNamedBy e) := by
  simp [firstMaster, record, List.findSome?_append]

@[simp] theorem eventsOf_redirect (w : World) (source target : Endpoint) (id : Nat) :
    (w.redirect source target).eventsOf id = w.eventsOf id :=
  rfl

@[simp] theorem firstMaster_redirect (w : World) (source target e : Endpoint) :
    (w.redirect source target).firstMaster e = w.firstMaster e :=
  rfl

/-- A master that has been named has been named in some answer. -/
theorem exists_answered_of_firstMaster {w : World} {e : Endpoint} {master : String}
    (h : w.firstMaster e = some master) :
    ∃ id call r, .answered id call r ∈ w.history ∧ call.endpoint = e ∧
      redirectTarget? r = some master := by
  obtain ⟨event, hmem, hevent⟩ := List.exists_of_findSome?_eq_some h
  cases event with
  | sent id call => cases hevent
  | answered id call r =>
    simp only [Event.masterNamedBy, Option.ite_none_right_eq_some] at hevent
    exact ⟨id, call, r, List.mem_reverse.1 hmem, hevent⟩

end World

/-! ## Calls that share a redirect -/

/-- `n` calls to a pool, none of which has begun, and no other program. The call `id` is to be sent
as `ask id`, if the endpoint there is the active one. -/
structure CallsAlone (n : Nat) (ask : Nat → Call) (s : System (Outcome Value)) : Prop where
  calls : ∀ id < n,
    s.stands id = .idle (callPool (ask id).method (ask id).params (ask id).deadline)
  others : ∀ id, n ≤ id → ∃ r, s.stands id = .ended r
  fresh : s.world.history = []

/-- All calls were sent to the endpoint first, and the masters that it has named are elsewhere. -/
structure World.StartedFrom (w : World) (e : Endpoint) : Prop where
  first : ∀ id call, (w.attempts id).head? = some call → call.endpoint = e
  elsewhere : ∀ id call r master, .answered id call r ∈ w.history → call.endpoint = e →
    redirectTarget? r = some master → e.withHost master ≠ e

/-- How far a call has come, and what has happened to it, the last first. -/
inductive Caller (id : Nat) (ask : Call) : Stand (Outcome Value) → List Event → Prop where
  | idle : Caller id ask (.idle (callPool ask.method ask.params ask.deadline)) []
  | first : Caller id ask (.awaiting ask (followUp ask)) [.sent id ask]
  | ended (r : Outcome Value) (h : redirectTarget? r = none) :
    Caller id ask (.ended r) [.answered id ask r, .sent id ask]
  | second (r : Outcome Value) (master : String) (h : redirectTarget? r = some master) :
    Caller id ask (.awaiting (ask.toMaster master) fun r' => .done (secondAnswer master r'))
      [.sent id (ask.toMaster master), .answered id ask r, .sent id ask]
  | redirected (r r' : Outcome Value) (master : String) (h : redirectTarget? r = some master) :
    Caller id ask (.ended (secondAnswer master r'))
      [.answered id (ask.toMaster master) r', .sent id (ask.toMaster master),
        .answered id ask r, .sent id ask]

/-- The client after the first refusal, if there was one. -/
def Client.following (c : Client) : Option String → Client
  | none => c
  | some master =>
    { c with endpoint := c.endpoint.withHost master, generation := c.generation + 1 }

/-- Calls in the course of a run that began with the client `client₀`: each has come as far as its
events tell, and the client follows the first refusal. -/
structure Sharing (n : Nat) (ask : Nat → Call) (e : Endpoint) (client₀ : Client)
    (s : System (Outcome Value)) : Prop where
  calls : ∀ id < n, Caller id (ask id) (s.stands id) (s.world.eventsOf id)
  others : ∀ id, n ≤ id → (∃ r, s.stands id = .ended r) ∧ s.world.eventsOf id = []
  client : s.world.shared.client = client₀.following (s.world.firstMaster e)
  active : client₀.endpoint = e

section Sharing

variable {n : Nat} {ask : Nat → Call} {e : Endpoint} {client₀ : Client}
  {s s' : System (Outcome Value)} {c : Choice} {cs : List Choice} {w w' : World}

theorem World.StartedFrom.of_suffix (h : w'.StartedFrom e) (hw : w.history <:+ w'.history) :
    w.StartedFrom e where
  first id call hcall := by
    refine h.first id call ?_
    have hprefix : w.attempts id <+: w'.attempts id :=
      (List.reverse_prefix.2 (hw.filter _)).filterMap _
    obtain ⟨later, hlater⟩ := hprefix
    rw [← hlater, List.head?_append, hcall]
    rfl
  elsewhere id call r master hmem := h.elsewhere id call r master (hw.mem hmem)

/-- The turn of a call leaves the others where they are. -/
theorem Sharing.place {id : Nat} {stand : Stand (Outcome Value)}
    (h : Sharing n ask e client₀ s) (hid : id < n)
    (hcall : Caller id (ask id) stand (w.eventsOf id))
    (hothers : ∀ j, j ≠ id → w.eventsOf j = s.world.eventsOf j)
    (hclient : w.shared.client = client₀.following (w.firstMaster e)) :
    Sharing n ask e client₀ (s.place id (stand, w)) where
  calls j hj := by
    by_cases hji : j = id
    · subst hji
      simpa [System.place] using hcall
    · simpa [System.place, hji, hothers j hji] using h.calls j hj
  others j hj := by
    have hji : j ≠ id := by omega
    simpa [System.place, hji, hothers j hji] using h.others j hj
  client := hclient
  active := h.active

/-- The first refusal of all moves the active endpoint. The others find it elsewhere. -/
theorem Sharing.client_redirect (h : Sharing n ask e client₀ s) (hw : s.world.StartedFrom e)
    (master : String) :
    s.world.shared.client.redirect e (e.withHost master) =
      client₀.following ((s.world.firstMaster e).or (some master)) := by
  rw [h.client]
  cases hfirst : s.world.firstMaster e with
  | none => simp [Client.following, Client.redirect, h.active]
  | some first =>
    obtain ⟨id, call, r, hmem, hcall, hr⟩ := World.exists_answered_of_firstMaster hfirst
    have helsewhere : e.withHost first ≠ e := hw.elsewhere id call r first hmem hcall hr
    simp [Client.following, Client.redirect, h.active, helsewhere]

/-- A call that begins is sent to the endpoint. -/
theorem Sharing.begin {id : Nat} (h : Sharing n ask e client₀ s) (hid : id < n)
    (hask : (ask id).endpoint = e) (hevents : s.world.eventsOf id = [])
    (hw : (s.world.record (.sent id ⟨s.world.shared.client.endpoint, (ask id).method,
      (ask id).params, (ask id).deadline⟩)).StartedFrom e) :
    Sharing n ask e client₀ (s.place id
      ((callPool (ask id).method (ask id).params (ask id).deadline).settle id s.world)) := by
  have hendpoint : s.world.shared.client.endpoint = e :=
    hw.first id ⟨s.world.shared.client.endpoint, (ask id).method, (ask id).params,
      (ask id).deadline⟩ (by simp [World.attempts, hevents, Event.call?])
  have hturn : (callPool (ask id).method (ask id).params (ask id).deadline).settle id s.world =
      (.awaiting (ask id) (followUp (ask id)), s.world.record (.sent id (ask id))) := by
    rw [callPool_eq]
    simp only [Program.settle, hendpoint, ← hask]
  rw [hturn]
  refine h.place hid ?_ (fun j hj => by simp [hj.symm]) ?_
  · simpa [hevents] using Caller.first
  · simpa [Event.masterNamedBy] using h.client

/-- The answer to a call's first attempt ends it, or sends it on to the master that is named. The
first such answer of all moves the active endpoint. -/
theorem Sharing.answer_first {id : Nat} {r : Outcome Value} (h : Sharing n ask e client₀ s)
    (hid : id < n) (hask : (ask id).endpoint = e)
    (hevents : s.world.eventsOf id = [.sent id (ask id)]) (hw : s.world.StartedFrom e) :
    Sharing n ask e client₀ (s.place id
      ((followUp (ask id) r).settle id (s.world.record (.answered id (ask id) r)))) := by
  rw [← Program.bind_done (followUp (ask id) r)]
  cases hr : redirectTarget? r with
  | none =>
    rw [Program.settle_followUp_of_none hr]
    refine h.place hid ?_ (fun j hj => by simp [hj.symm]) ?_
    · simpa [hevents] using Caller.ended r hr
    · simpa [Event.masterNamedBy, hr] using h.client
  | some master =>
    rw [Program.settle_followUp_of_some hr]
    refine h.place hid ?_ (fun j hj => by simp [hj.symm]) ?_
    · simpa [hevents] using Caller.second r master hr
    · have hmoved := h.client_redirect hw master
      simpa [Event.masterNamedBy, hask, hr, Call.toMaster] using hmoved

/-- The answer to a call's second attempt ends it. It comes from elsewhere. -/
theorem Sharing.answer_second {id : Nat} {r r' : Outcome Value} {master : String}
    (h : Sharing n ask e client₀ s) (hid : id < n) (hask : (ask id).endpoint = e)
    (hr : redirectTarget? r = some master)
    (hevents : s.world.eventsOf id =
      [.sent id ((ask id).toMaster master), .answered id (ask id) r, .sent id (ask id)])
    (hw : s.world.StartedFrom e) :
    Sharing n ask e client₀ (s.place id
      (.ended (secondAnswer master r'),
        s.world.record (.answered id ((ask id).toMaster master) r'))) := by
  have hmem : .answered id (ask id) r ∈ s.world.eventsOf id := by simp [hevents]
  have hanswered : .answered id (ask id) r ∈ s.world.history := (List.mem_filter.1 hmem).1
  have helsewhere : ((ask id).toMaster master).endpoint ≠ e := by
    simpa [Call.toMaster, hask] using hw.elsewhere id (ask id) r master hanswered hask hr
  refine h.place hid ?_ (fun j hj => by simp [hj.symm]) ?_
  · simpa [hevents] using Caller.redirected r r' master hr
  · simpa [Event.masterNamedBy, helsewhere] using h.client

/-- Every turn of a call is one of these. -/
theorem Sharing.step (hask : ∀ id < n, (ask id).endpoint = e) (h : Sharing n ask e client₀ s)
    (hs : s.step c = some s') (hw : s'.world.StartedFrom e) : Sharing n ask e client₀ s' := by
  have hw₀ : s.world.StartedFrom e := hw.of_suffix (System.history_suffix_step hs)
  obtain ⟨⟨p, w⟩, he, rfl⟩ := Option.map_eq_some_iff.1 hs
  have hentry := System.entry_cases he
  have hid : c.id < n := by
    by_contra hid
    obtain ⟨⟨r, hended⟩, -⟩ := h.others c.id (by omega)
    simp [hended] at hentry
  have hcaller := h.calls c.id hid
  generalize hstand : s.stands c.id = stand at hcaller hentry
  generalize hevents : s.world.eventsOf c.id = events at hcaller
  cases hcaller with
  | idle =>
    simp only [Stand.idle.injEq, reduceCtorEq, false_and, exists_false, or_false] at hentry
    obtain ⟨rfl, rfl⟩ := hentry
    exact h.begin hid (hask c.id hid) hevents hw
  | first =>
    simp only [reduceCtorEq, false_and, exists_false, false_or, Stand.awaiting.injEq] at hentry
    obtain ⟨_, _, r, ⟨rfl, rfl⟩, rfl, rfl⟩ := hentry
    exact h.answer_first hid (hask c.id hid) hevents hw₀
  | ended r hr => simp at hentry
  | second r master hr =>
    simp only [reduceCtorEq, false_and, exists_false, false_or, Stand.awaiting.injEq] at hentry
    obtain ⟨_, _, r', ⟨rfl, rfl⟩, rfl, rfl⟩ := hentry
    exact h.answer_second hid (hask c.id hid) hr hevents hw₀
  | redirected r r' master hr => simp at hentry

theorem Sharing.run (hask : ∀ id < n, (ask id).endpoint = e) (h : Sharing n ask e client₀ s)
    (hr : s.run cs = some s') (hw : s'.world.StartedFrom e) : Sharing n ask e client₀ s' :=
  System.run_invariant (P := fun s => s.world.StartedFrom e → Sharing n ask e client₀ s)
    (fun _ _ _ h hs hw => (h (hw.of_suffix (System.history_suffix_step hs))).step hask hs hw)
    hr (fun _ => h) hw

theorem CallsAlone.sharing (h : CallsAlone n ask s)
    (hactive : s.world.shared.client.endpoint = e) :
    Sharing n ask e s.world.shared.client s where
  calls id hid := by
    rw [h.calls id hid]
    simpa [World.eventsOf, h.fresh] using Caller.idle
  others id hid := ⟨h.others id hid, by simp [World.eventsOf, h.fresh]⟩
  client := by simp [World.firstMaster, h.fresh, Client.following]
  active := hactive

/-- An answer from the endpoint tells all that its call has sent. -/
theorem Caller.attempts_of_answered {id : Nat} {ask call : Call} {stand : Stand (Outcome Value)}
    {r : Outcome Value} (h : Caller id ask stand (w.eventsOf id)) (hask : ask.endpoint = e)
    (hw : w.StartedFrom e) (hmem : .answered id call r ∈ w.history) (hcall : call.endpoint = e) :
    w.attempts id = ask :: ((redirectTarget? r).map ask.toMaster).toList := by
  have hevent : .answered id call r ∈ w.eventsOf id := by simp [World.eventsOf, hmem]
  have helsewhere : ∀ r master, .answered id ask r ∈ w.eventsOf id →
      redirectTarget? r = some master → (ask.toMaster master).endpoint ≠ e := by
    intro r master hr htarget
    simpa [Call.toMaster, hask] using
      hw.elsewhere id ask r master (List.mem_filter.1 hr).1 hask htarget
  rw [World.attempts]
  generalize w.eventsOf id = events at h hevent helsewhere
  cases h with
  | idle => simp at hevent
  | first => simp at hevent
  | ended r' hr' =>
    obtain ⟨rfl, rfl⟩ : call = ask ∧ r = r' := by simpa using hevent
    simp [Event.call?, List.filterMap_cons, hr']
  | second r' master hr' =>
    obtain ⟨rfl, rfl⟩ : call = ask ∧ r = r' := by simpa using hevent
    simp [Event.call?, List.filterMap_cons, hr']
  | redirected r' r'' master hr' =>
    have hne := helsewhere r' master (by simp) hr'
    obtain ⟨rfl, rfl⟩ | ⟨rfl, rfl⟩ :
        (call = ask.toMaster master ∧ r = r'') ∨ (call = ask ∧ r = r') := by simpa using hevent
    · exact absurd hcall hne
    · simp [Event.call?, List.filterMap_cons, hr']

/-- Calls that all are sent to one endpoint first, whose answers come in any order, share the move
to the master that the first refusal names. Each refused call is sent once more, to its own
master. -/
theorem client_of_shared_refusal (hbegin : CallsAlone n ask s)
    (hactive : s.world.shared.client.endpoint = e) (hask : ∀ id < n, (ask id).endpoint = e)
    (hrun : s.run cs = some s') (hw : s'.world.StartedFrom e) :
    s'.world.shared.client =
        (match s'.world.firstMaster e with
        | none => s.world.shared.client
        | some master =>
          { s.world.shared.client with
            endpoint := e.withHost master
            generation := s.world.shared.client.generation + 1 }) ∧
      ∀ id call r, .answered id call r ∈ s'.world.history → call.endpoint = e →
        s'.world.attempts id = ask id :: ((redirectTarget? r).map (ask id).toMaster).toList := by
  have hend := (hbegin.sharing hactive).run hask hrun hw
  constructor
  · rw [hend.client, ← hactive]
    cases s'.world.firstMaster s.world.shared.client.endpoint <;> rfl
  · intro id call r hmem hcall
    have hid : id < n := by
      by_contra hid
      have hnone := (hend.others id (by omega)).2
      have hevent : .answered id call r ∈ s'.world.eventsOf id := by simp [World.eventsOf, hmem]
      simp [hnone] at hevent
    exact (hend.calls id hid).attempts_of_answered (hask id hid) hw hmem hcall

end Sharing

/-- The calls begin, and two of them are refused: the second one first. -/
def twoRefusals : List Choice :=
  [.go 0, .go 1, .go 2, .answer 1 (refusal "b"), .answer 0 (refusal "c"), .answer 2 (.ok .nil),
    .answer 0 (.ok .nil)]

/-- The second call moves the active endpoint to `b`, and the first is sent to `c` all the same. -/
theorem client_of_shared_refusal_twice :
    ∃ s, threeCalls.run twoRefusals = some s ∧
      s.world.shared.client = ⟨.ofHost "b" true, 1, none⟩ ∧
      s.world.attempts 0 = [asks 0, (asks 0).toMaster "c"] ∧
      s.world.attempts 1 = [asks 1, (asks 1).toMaster "b"] ∧
      s.world.attempts 2 = [asks 2] := by
  have hbegin : CallsAlone 3 asks threeCalls :=
    { calls := fun id hid => by simp [threeCalls, hid]
      others := fun id hid => ⟨.ok .nil, by simp [threeCalls, Nat.not_lt.2 hid]⟩
      fresh := rfl }
  obtain ⟨s, hrun, hhistory⟩ : ∃ s, threeCalls.run twoRefusals = some s ∧ s.world.history =
      [.answered 0 ((asks 0).toMaster "c") (.ok .nil), .answered 2 (asks 2) (.ok .nil),
        .sent 0 ((asks 0).toMaster "c"), .answered 0 (asks 0) (refusal "c"),
        .sent 1 ((asks 1).toMaster "b"), .answered 1 (asks 1) (refusal "b"),
        .sent 2 (asks 2), .sent 1 (asks 1), .sent 0 (asks 0)] := ⟨_, rfl, rfl⟩
  have hw : s.world.StartedFrom (.ofHost "a" true) :=
    { first := by
        intro id call hcall
        rcases id with _ | _ | _ | id
        all_goals simp [World.attempts, World.eventsOf, hhistory, Event.call?] at hcall
        all_goals exact hcall ▸ rfl
      elsewhere := by
        intro id call r master hmem
        simp only [hhistory, List.mem_cons, Event.answered.injEq, reduceCtorEq, false_or,
          List.not_mem_nil, or_false] at hmem
        intro _ htarget
        obtain ⟨-, -, rfl⟩ | ⟨-, -, rfl⟩ | ⟨-, -, rfl⟩ | ⟨-, -, rfl⟩ := hmem
        · cases htarget
        · cases htarget
        · obtain rfl : "c" = master := Option.some.inj htarget
          decide
        · obtain rfl : "b" = master := Option.some.inj htarget
          decide }
  obtain ⟨hclient, hattempts⟩ :=
    client_of_shared_refusal (e := .ofHost "a" true) hbegin rfl (fun _ _ => rfl) hrun hw
  refine ⟨s, hrun, ?_, ?_, ?_, ?_⟩
  · rw [hclient]
    have hfirst : s.world.firstMaster (.ofHost "a" true) = some "b" := by
      rw [World.firstMaster, hhistory]
      rfl
    rw [hfirst]
    rfl
  · exact hattempts 0 (asks 0) (refusal "c") (by simp [hhistory]) rfl
  · exact hattempts 1 (asks 1) (refusal "b") (by simp [hhistory]) rfl
  · exact hattempts 2 (asks 2) (.ok .nil) (by simp [hhistory]) rfl

end PoolClient
