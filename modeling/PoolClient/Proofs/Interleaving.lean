import PoolClient.Session.Session
/-!
# Interleaved programs

Programs over one shared state take turns where they wait: for an answer, for time to pass, or
for the right to log in again. `Program.settle` lets one program go on to its next wait, and
`System.step` lets any program do so whose wait can end; the answers are arbitrary.

`Program.Obeys` is a contract for one program. Between its turns the world changes only as a
rely relation allows, and each of its turns keeps to a guarantee. If what each program
guarantees is what the others rely on (`Compatible`), every turn keeps to its guarantee
(`System.step_obeys`), and so what the guarantees keep is kept by a run (`System.run_keeps`).
-/

namespace PoolClient

open Time

/-! ## The world -/

/-- What happens to a call: a program sends it, and gets its answer. -/
inductive Event where
  | sent (id : Nat) (call : Call)
  | answered (id : Nat) (call : Call) (answer : Outcome Value)

/-- What running programs share: the state, who has the right to log in again, login by login,
and what has happened to calls, the last first. -/
structure World where
  shared : Shared
  holder : Nat → Option Nat
  history : List Event

namespace World

/-- The program `id` gets the right to log in again on the login `i`. -/
def grant (w : World) (i id : Nat) : World :=
  { w with holder := fun j => if j = i then some id else w.holder j }

/-- Nobody has the right to log in again on the login `i`. -/
def free (w : World) (i : Nat) : World :=
  { w with holder := fun j => if j = i then none else w.holder j }

/-- One more thing has happened. -/
def record (w : World) (e : Event) : World :=
  { w with history := e :: w.history }

/-- The world after a change of the shared state. -/
def change (w : World) (f : Shared → Shared) : World :=
  { w with shared := f w.shared }

/-- The active endpoint moves, if it is still the one a call was sent to. -/
def redirect (w : World) (source target : Endpoint) : World :=
  w.change fun s => { s with client := s.client.redirect source target }

@[simp] theorem shared_record (w : World) (e : Event) : (w.record e).shared = w.shared :=
  rfl

@[simp] theorem client_redirect (w : World) (source target : Endpoint) :
    (w.redirect source target).shared.client = w.shared.client.redirect source target :=
  rfl

/-- A redirect comes to nothing if the active endpoint has moved. -/
theorem redirect_of_ne {w : World} {source target : Endpoint}
    (h : w.shared.client.endpoint ≠ source) : w.redirect source target = w := by
  simp [redirect, change, Client.redirect, h]

end World

/-! ## Turns -/

/-- What a program can wait for. -/
inductive Wait where
  | answer (call : Call)
  | time (duration : Duration)
  | right (login : Nat)

/-- How far a program has come: it has not begun, waits, or is over. -/
inductive Stand (α : Type) where
  | idle (p : Program α)
  | awaiting (call : Call) (next : Outcome Value → Program α)
  | pausing (time : Duration) (next : Program α)
  | queueing (login : Nat) (next : Program α)
  | ended (result : α)

/-- Let the program `id` go on to its next wait. -/
def Program.settle {α : Type} (id : Nat) : Program α → World → Stand α × World
  | .done a, w => (.ended a, w)
  | .look next, w => (next w.shared).settle id w
  | .change f next, w => next.settle id (w.change f)
  | .note _ next, w => next.settle id w
  | .send call next, w => (.awaiting call next, w.record (.sent id call))
  | .pause time next, w => (.pausing time next, w)
  | .acquire i next, w => (.queueing i next, w)
  | .release i next, w => next.settle id (w.free i)

/-- Programs by number, each as far as it has come, and the world they share. -/
structure System (α : Type) where
  world : World
  stands : Nat → Stand α

/-- Whose turn it is: a program begins, or goes on after a pause or with the right it has asked
for, or it gets an answer. -/
inductive Choice where
  | go (id : Nat)
  | answer (id : Nat) (answer : Outcome Value)

/-- The program whose turn it is. -/
def Choice.id : Choice → Nat
  | .go id => id
  | .answer id _ => id

namespace System

variable {α : Type}

/-- What a program has left to do in its turn, and the world in which it begins it. There is no
turn for a program whose wait cannot end so. -/
def entry (s : System α) : Choice → Option (Program α × World)
  | .go id =>
    match s.stands id with
    | .idle p => some (p, s.world)
    | .pausing _ next => some (next, s.world)
    | .queueing i next =>
      match s.world.holder i with
      | none => some (next, s.world.grant i id)
      | some _ => none
    | _ => none
  | .answer id r =>
    match s.stands id with
    | .awaiting call next => some (next r, s.world.record (.answered id call r))
    | _ => none

/-- The system with the program `id` at another stand, in another world. -/
def place (s : System α) (id : Nat) (turn : Stand α × World) : System α :=
  ⟨turn.2, fun j => if j = id then turn.1 else s.stands j⟩

/-- One turn. -/
def step (s : System α) (c : Choice) : Option (System α) :=
  (s.entry c).map fun (p, w) => s.place c.id (p.settle c.id w)

/-- One turn after another. -/
def run (s : System α) (cs : List Choice) : Option (System α) :=
  cs.foldlM step s

end System

/-- What every turn of some kind keeps is kept by all turns of that kind, one after another. -/
theorem foldlM_invariant {σ : Type} {step : σ → Choice → Option σ} {P : σ → Prop}
    {Q : Choice → Prop} (hstep : ∀ s c s', Q c → P s → step s c = some s' → P s')
    {s s' : σ} {cs : List Choice} (hr : cs.foldlM step s = some s') (hcs : ∀ c ∈ cs, Q c)
    (h : P s) : P s' := by
  induction cs generalizing s with
  | nil =>
    cases hr
    exact h
  | cons c cs ih =>
    rw [List.foldlM_cons] at hr
    obtain ⟨s₁, hs, hr⟩ := Option.bind_eq_some_iff.1 hr
    obtain ⟨hc, hcs⟩ := List.forall_mem_cons.1 hcs
    exact ih hr hcs (hstep s c s₁ hc h hs)

/-! ## Contracts -/

/-- What a program relies on between its turns, and what it guarantees of each of its turns: of
the world before, the wait it ends in, and the world after. -/
structure Contract where
  rely : World → World → Prop
  guarantee : World → Wait → World → Prop

variable {α β : Type} {C : Contract} {id : Nat}

/-- From the world `w` on, in a turn that began in `w₀`, the program `id` keeps its contract. If
it comes to its end, `post` holds of the result and of its last turn. -/
def Program.Obeys (C : Contract) (id : Nat) (p : Program α) (post : α → World → World → Prop)
    (w₀ w : World) : Prop :=
  match p with
  | .done a => post a w₀ w
  | .look next => (next w.shared).Obeys C id post w₀ w
  | .change f next => next.Obeys C id post w₀ (w.change f)
  | .note _ next => next.Obeys C id post w₀ w
  | .send call next =>
    C.guarantee w₀ (.answer call) (w.record (.sent id call)) ∧
      ∀ r w', C.rely (w.record (.sent id call)) w' →
        (next r).Obeys C id post w' (w'.record (.answered id call r))
  | .pause time next =>
    C.guarantee w₀ (.time time) w ∧ ∀ w', C.rely w w' → next.Obeys C id post w' w'
  | .acquire i next =>
    C.guarantee w₀ (.right i) w ∧
      ∀ w', C.rely w w' → w'.holder i = none → next.Obeys C id post w' (w'.grant i id)
  | .release i next => next.Obeys C id post w₀ (w.free i)

namespace Program

variable {w₀ w : World}

/-- To go on with the result of a program is to keep the contract from where it ends. -/
theorem obeys_bind {p : Program α} {f : α → Program β} {post : β → World → World → Prop} :
    (p.bind f).Obeys C id post w₀ w ↔
      p.Obeys C id (fun a => (f a).Obeys C id post) w₀ w := by
  induction p generalizing w₀ w with
  | done a => rfl
  | look next ih => exact ih _
  | change g next ih => exact ih
  | note line next ih => exact ih
  | send call next ih => exact and_congr_right fun _ => forall₃_congr fun r _ _ => ih r
  | pause time next ih => exact and_congr_right fun _ => forall₂_congr fun _ _ => ih
  | acquire i next ih => exact and_congr_right fun _ => forall₃_congr fun _ _ _ => ih
  | release i next ih => exact ih

/-- A program that keeps a contract keeps every contract that relies on as much and guarantees no
more. -/
theorem Obeys.mono {C' : Contract} {p : Program α} {post post' : α → World → World → Prop}
    (h : p.Obeys C id post w₀ w) (hrely : ∀ w w', C'.rely w w' → C.rely w w')
    (hguarantee : ∀ w wait w', C.guarantee w wait w' → C'.guarantee w wait w')
    (hpost : ∀ a w w', post a w w' → post' a w w') : p.Obeys C' id post' w₀ w := by
  induction p generalizing w₀ w with
  | done a => exact hpost a w₀ w h
  | look next ih => exact ih _ h
  | change f next ih => exact ih h
  | note line next ih => exact ih h
  | send call next ih =>
    exact ⟨hguarantee _ _ _ h.1, fun r w' hw => ih r (h.2 r w' (hrely _ _ hw))⟩
  | pause time next ih => exact ⟨hguarantee _ _ _ h.1, fun w' hw => ih (h.2 w' (hrely _ _ hw))⟩
  | acquire i next ih =>
    exact ⟨hguarantee _ _ _ h.1, fun w' hw hfree => ih (h.2 w' (hrely _ _ hw) hfree)⟩
  | release i next ih => exact ih h

theorem obeys_andThen {p : Program (Outcome α)} {f : α → Program (Outcome β)}
    {post : Outcome β → World → World → Prop} :
    (p.andThen f).Obeys C id post w₀ w ↔
      p.Obeys C id (fun r w₀ w => match r with
        | .ok a => (f a).Obeys C id post w₀ w
        | .error e => post (.error e) w₀ w) w₀ w := by
  rw [andThen, obeys_bind]
  refine iff_of_eq ?_
  congr
  funext r
  cases r <;> rfl

theorem obeys_given {r : Except Schema.CodecError α} {f : α → Program (Outcome β)}
    {post : Outcome β → World → World → Prop} :
    (given r f).Obeys C id post w₀ w ↔
      match r with
      | .ok a => (f a).Obeys C id post w₀ w
      | .error e => post (.error (.codec e)) w₀ w := by
  cases r <;> rfl

theorem obeys_redirect {source target : Endpoint} {post : Unit → World → World → Prop} :
    (redirect source target).Obeys C id post w₀ w ↔ post () w₀ (w.redirect source target) := by
  have hlook : (redirect source target).Obeys C id post w₀ w ↔
      (if w.shared.client.endpoint = source then
        (.note (.redirected source.host target.host) <|
          .change (fun s => { s with client := s.client.redirect source target }) (.done ()) :
          Program Unit)
      else .done ()).Obeys C id post w₀ w := Iff.rfl
  rw [hlook]
  split
  · rfl
  · rename_i h
    rw [World.redirect_of_ne h]
    rfl

/-- The turns of a call to the pool: it is sent to the active endpoint, and once more to the
master if the answer names one. -/
theorem obeys_callPool {method : String} {params : List Value} {deadline : Option Duration}
    {post : Outcome Value → World → World → Prop} :
    (callPool method params deadline).Obeys C id post w₀ w ↔
      let source := w.shared.client.endpoint
      let first : Call := ⟨source, method, params, deadline⟩
      C.guarantee w₀ (.answer first) (w.record (.sent id first)) ∧
        ∀ r w', C.rely (w.record (.sent id first)) w' →
          match redirectTarget? r with
          | none => post r w' (w'.record (.answered id first r))
          | some master =>
            let target := source.withHost master
            let second : Call := ⟨target, method, params, deadline⟩
            let moved := (w'.record (.answered id first r)).redirect source target
            C.guarantee w' (.answer second) (moved.record (.sent id second)) ∧
              ∀ r' w'', C.rely (moved.record (.sent id second)) w'' →
                post (secondAnswer master r') w'' (w''.record (.answered id second r')) := by
  simp only [callPool, Obeys]
  refine and_congr_right fun _ => forall₃_congr fun r w' _ => ?_
  cases redirectTarget? r with
  | none => rfl
  | some master => exact obeys_bind.trans obeys_redirect

end Program

/-! ## Turns keep to contracts -/

/-- A turn only adds to the history. -/
theorem Program.history_suffix_settle (p : Program α) (w : World) :
    w.history <:+ (p.settle id w).2.history := by
  induction p generalizing w with
  | done a => exact List.suffix_refl _
  | look next ih => exact ih _ w
  | change f next ih => exact ih (w.change f)
  | note line next ih => exact ih w
  | send call next ih => exact List.suffix_cons ..
  | pause time next ih => exact List.suffix_refl _
  | acquire i next ih => exact List.suffix_refl _
  | release i next ih => exact ih (w.free i)

/-- What the contract asks of the turn that ended at this stand. -/
def Stand.Meets (C : Contract) (post : α → World → World → Prop) (w₀ w : World) :
    Stand α → Prop
  | .idle _ => False
  | .awaiting call _ => C.guarantee w₀ (.answer call) w
  | .pausing time _ => C.guarantee w₀ (.time time) w
  | .queueing i _ => C.guarantee w₀ (.right i) w
  | .ended a => post a w₀ w

/-- What is left of the program `id` keeps its contract from the world `w` on. -/
def Stand.Obeys (C : Contract) (id : Nat) (post : α → World → World → Prop) (w : World) :
    Stand α → Prop
  | .idle p => ∀ w', C.rely w w' → p.Obeys C id post w' w'
  | .awaiting call next => ∀ r w', C.rely w w' →
      (next r).Obeys C id post w' (w'.record (.answered id call r))
  | .pausing _ next => ∀ w', C.rely w w' → next.Obeys C id post w' w'
  | .queueing i next => ∀ w', C.rely w w' → w'.holder i = none →
      next.Obeys C id post w' (w'.grant i id)
  | .ended _ => True

variable {post : α → World → World → Prop} {w₀ w w' : World}

/-- What follows from the guarantee and from the postcondition follows from every turn. -/
theorem Stand.Meets.elim {P : Prop} {stand : Stand α} (h : stand.Meets C post w₀ w)
    (hturn : ∀ wait, C.guarantee w₀ wait w → P) (hlast : ∀ a, post a w₀ w → P) : P := by
  cases stand with
  | idle p => exact False.elim h
  | awaiting call next => exact hturn (.answer call) h
  | pausing time next => exact hturn (.time time) h
  | queueing i next => exact hturn (.right i) h
  | ended a => exact hlast a h

theorem Program.settle_obeys {p : Program α} (h : p.Obeys C id post w₀ w) :
    (p.settle id w).1.Meets C post w₀ (p.settle id w).2 ∧
      (p.settle id w).1.Obeys C id post (p.settle id w).2 := by
  induction p generalizing w with
  | done a => exact ⟨h, trivial⟩
  | look next ih => exact ih _ h
  | change f next ih => exact ih h
  | note line next ih => exact ih h
  | send call next ih => exact h
  | pause time next ih => exact h
  | acquire i next ih => exact h
  | release i next ih => exact ih h

/-- A contract outlives the turns of others. -/
theorem Stand.Obeys.rely (htrans : ∀ w w' w'', C.rely w w' → C.rely w' w'' → C.rely w w'')
    {stand : Stand α} (h : stand.Obeys C id post w) (hw : C.rely w w') :
    stand.Obeys C id post w' := by
  cases stand with
  | idle p => exact fun w'' hw' => h w'' (htrans _ _ _ hw hw')
  | awaiting call next => exact fun r w'' hw' => h r w'' (htrans _ _ _ hw hw')
  | pausing time next => exact fun w'' hw' => h w'' (htrans _ _ _ hw hw')
  | queueing i next => exact fun w'' hw' => h w'' (htrans _ _ _ hw hw')
  | ended a => trivial

/-- Contracts for programs by number, each with its postcondition, fit together: what one
guarantees of its turns, the others rely on. -/
structure Compatible (C : Nat → Contract) (post : Nat → α → World → World → Prop) : Prop where
  refl : ∀ id w, (C id).rely w w
  trans : ∀ id w w' w'', (C id).rely w w' → (C id).rely w' w'' → (C id).rely w w''
  turn : ∀ id other, other ≠ id → ∀ w wait w', (C id).guarantee w wait w' → (C other).rely w w'
  last : ∀ id other, other ≠ id → ∀ a w w', post id a w w' → (C other).rely w w'

namespace System

/-- Every program keeps its contract from now on. -/
def Obeys (C : Nat → Contract) (post : Nat → α → World → World → Prop) (s : System α) : Prop :=
  ∀ id, (s.stands id).Obeys (C id) id (post id) s.world

variable {C : Nat → Contract} {post : Nat → α → World → World → Prop} {s s' : System α}
  {c : Choice} {cs : List Choice}

/-- A program that waits for an answer can go on with any. -/
theorem step_answer {id : Nat} {call : Call} {next : Outcome Value → Program α}
    (hstand : s.stands id = .awaiting call next) (r : Outcome Value) :
    ∃ s', s.step (.answer id r) = some s' ∧
      .answered id call r :: s.world.history <:+ s'.world.history := by
  refine ⟨_, by rw [step, entry, hstand]; rfl, ?_⟩
  exact Program.history_suffix_settle (next r) (s.world.record (.answered id call r))

/-- A program that waits for an answer goes on with one. -/
theorem answered_of_step {call : Call} {next : Outcome Value → Program α}
    (hstand : s.stands c.id = .awaiting call next) (hs : s.step c = some s') :
    ∃ r, .answered c.id call r :: s.world.history <:+ s'.world.history := by
  cases c with
  | go id => simp [step, entry, show s.stands id = _ from hstand] at hs
  | answer id r =>
    obtain ⟨s₂, hs₂, hsuffix⟩ := step_answer (show s.stands id = _ from hstand) r
    obtain rfl : s₂ = s' := Option.some.inj (hs₂.symm.trans hs)
    exact ⟨r, hsuffix⟩

/-- A program that has not begun can begin. -/
theorem step_go {id : Nat} {p : Program α} (hstand : s.stands id = .idle p) :
    s.step (.go id) = some (s.place id (p.settle id s.world)) := by
  simp only [step, entry, hstand]
  rfl

/-- Only a program that waits for an answer gets one. -/
theorem awaiting_of_step_answer {id : Nat} {r : Outcome Value}
    (hs : s.step (.answer id r) = some s') :
    ∃ call next, s.stands id = .awaiting call next := by
  cases hstand : s.stands id with
  | awaiting call next => exact ⟨call, next, rfl⟩
  | idle p => simp [step, entry, hstand] at hs
  | pausing time next => simp [step, entry, hstand] at hs
  | queueing i next => simp [step, entry, hstand] at hs
  | ended a => simp [step, entry, hstand] at hs

/-- The turns of others leave a program where it stands. -/
theorem stands_of_step {id : Nat} (hs : s.step c = some s') (hid : id ≠ c.id) :
    s'.stands id = s.stands id := by
  obtain ⟨⟨p, w⟩, -, rfl⟩ := Option.map_eq_some_iff.1 hs
  simp [place, hid]

/-- A program that is over takes no turn. -/
theorem step_ended {a : α} (hstand : s.stands c.id = .ended a) : s.step c = none := by
  cases c with
  | go id => simp [step, entry, show s.stands id = _ from hstand]
  | answer id r => simp [step, entry, show s.stands id = _ from hstand]

/-- What a turn can begin with: a program that has not begun or has paused, one that gets the right
it has asked for, or one that gets its answer. -/
theorem entry_cases {p : Program α} {w : World} (he : s.entry c = some (p, w)) :
    (s.stands c.id = .idle p ∧ w = s.world) ∨
      (∃ time, s.stands c.id = .pausing time p ∧ w = s.world) ∨
      (∃ i, s.stands c.id = .queueing i p ∧ s.world.holder i = none ∧ w = s.world.grant i c.id) ∨
      ∃ call next r, s.stands c.id = .awaiting call next ∧ p = next r ∧
        w = s.world.record (.answered c.id call r) := by
  cases c with
  | go id =>
    simp only [entry, Choice.id] at he ⊢
    cases hstand : s.stands id with
    | idle q => simp_all
    | awaiting call next => simp [hstand] at he
    | pausing time next => simp_all
    | queueing i next =>
      cases hfree : s.world.holder i <;> simp_all
    | ended a => simp [hstand] at he
  | answer id r =>
    simp only [entry, Choice.id] at he ⊢
    cases hstand : s.stands id with
    | awaiting call next =>
      simp only [hstand, Option.some.injEq, Prod.mk.injEq] at he
      exact .inr (.inr (.inr ⟨call, next, r, rfl, he.1.symm, he.2.symm⟩))
    | idle q => simp [hstand] at he
    | pausing time next => simp [hstand] at he
    | queueing i next => simp [hstand] at he
    | ended a => simp [hstand] at he

theorem history_suffix_step (hs : s.step c = some s') : s.world.history <:+ s'.world.history := by
  obtain ⟨⟨p, w⟩, he, rfl⟩ := Option.map_eq_some_iff.1 hs
  have hentry : s.world.history <:+ w.history := by
    obtain ⟨-, rfl⟩ | ⟨-, -, rfl⟩ | ⟨i, -, -, rfl⟩ | ⟨call, next, r, -, -, rfl⟩ := entry_cases he
    · exact List.suffix_refl _
    · exact List.suffix_refl _
    · exact List.suffix_refl _
    · exact List.suffix_cons ..
  exact hentry.trans (Program.history_suffix_settle p w)

/-- What begins a turn is a part of the program that keeps its contract. -/
theorem obeys_of_entry (hrefl : ∀ id w, (C id).rely w w) (h : s.Obeys C post)
    {p : Program α} {w : World} (he : s.entry c = some (p, w)) :
    p.Obeys (C c.id) c.id (post c.id) s.world w := by
  have hid := h c.id
  rcases entry_cases he with ⟨hstand, rfl⟩ | ⟨time, hstand, rfl⟩ | ⟨i, hstand, hfree, rfl⟩ |
    ⟨call, next, r, hstand, rfl, rfl⟩ <;> rw [hstand] at hid
  · exact hid _ (hrefl ..)
  · exact hid _ (hrefl ..)
  · exact hid _ (hrefl ..) hfree
  · exact hid r _ (hrefl ..)

/-- A turn keeps to the contract of the program whose turn it is, and all programs go on keeping
theirs. -/
theorem step_obeys (hC : Compatible C post) (h : s.Obeys C post) (hs : s.step c = some s') :
    (s'.stands c.id).Meets (C c.id) (post c.id) s.world s'.world ∧ s'.Obeys C post := by
  obtain ⟨⟨p, w⟩, he, rfl⟩ := Option.map_eq_some_iff.1 hs
  obtain ⟨hmeets, hobeys⟩ := Program.settle_obeys (obeys_of_entry hC.refl h he)
  have hself : (s.place c.id (p.settle c.id w)).stands c.id = (p.settle c.id w).1 := by
    simp [place]
  refine ⟨by rw [hself]; exact hmeets, fun id => ?_⟩
  by_cases hid : id = c.id
  · subst hid
    rw [hself]
    exact hobeys
  · have hother : (s.place c.id (p.settle c.id w)).stands id = s.stands id := by
      simp [place, hid]
    have hrely : (C id).rely s.world (p.settle c.id w).2 :=
      hmeets.elim (fun _ => hC.turn c.id id hid _ _ _) fun _ => hC.last c.id id hid _ _ _
    rw [hother]
    exact (h id).rely (hC.trans id) hrely

theorem run_cons : s.run (c :: cs) = (s.step c).bind fun s => s.run cs := by
  simp [run, List.foldlM_cons]

/-- What every turn keeps is kept by a run. -/
theorem run_invariant {P : System α → Prop}
    (hstep : ∀ s c s', P s → s.step c = some s' → P s') (hr : s.run cs = some s') (h : P s) :
    P s' :=
  foldlM_invariant (fun s c s' _ => hstep s c s') hr (fun _ _ => trivial) h

/-- A run leaves a program that takes no turn where it stands. -/
theorem stands_of_run {id : Nat} (hr : s.run cs = some s') (hcs : ∀ c ∈ cs, c.id ≠ id) :
    s'.stands id = s.stands id :=
  foldlM_invariant (P := fun s' => s'.stands id = s.stands id)
    (fun _ _ _ hc h hs => (stands_of_step hs hc.symm).trans h) hr hcs rfl

/-- What the guarantees of some programs keep is kept by a run in which only they take turns. -/
theorem run_keeps (hC : Compatible C post) {P : World → Prop} {takes : Nat → Prop}
    (hturn : ∀ id, takes id → ∀ w wait w', (C id).guarantee w wait w' → P w → P w')
    (hlast : ∀ id, takes id → ∀ a w w', post id a w w' → P w → P w')
    (h : s.Obeys C post) (hr : s.run cs = some s') (hcs : ∀ c ∈ cs, takes c.id)
    (hP : P s.world) : P s'.world := by
  have hstep : ∀ (s : System α) c s', takes c.id → s.Obeys C post ∧ P s.world →
      s.step c = some s' → s'.Obeys C post ∧ P s'.world := by
    intro s c s' hc ⟨h, hP⟩ hs
    obtain ⟨hmeets, h'⟩ := step_obeys hC h hs
    exact ⟨h', hmeets.elim (fun _ hg => hturn c.id hc _ _ _ hg hP)
      fun _ hq => hlast c.id hc _ _ _ hq hP⟩
  exact (foldlM_invariant hstep hr hcs ⟨h, hP⟩).2

end System

end PoolClient
