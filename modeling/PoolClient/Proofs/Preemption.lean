import PoolClient.Proofs.Interleaving
/-!
# Programs that may be interrupted anywhere

A turn of a `System` takes a program to its next wait. In a `Crowd` a program may be interrupted
between any two of its looks and changes: a turn does one thing, and the `Annals` keep all turns
that have been taken. Every run of a system is one of a crowd (`System.exists_run_of_run`).

`Program.Minds` is a contract for one program of a crowd, a `Pact`: the program relies on what the
others do before each of its turns, and guarantees something of each of its turns. If what each
program guarantees is what the others rely on (`Harmony`), every turn keeps to its guarantee
(`Crowd.step_minds`, `Crowd.run_minds`).
-/

namespace PoolClient

open Time

/-! ## Single turns -/

/-- A program with something to do, or one that waits for an answer. -/
inductive Thread (α : Type) where
  | ready (p : Program α)
  | awaiting (call : Call) (next : Outcome Value → Program α)

/-- A turn that has been taken, and the world before it. -/
structure Turn where
  choice : Choice
  before : World

/-- The world, and the turns that have led to it, the last first. -/
structure Annals where
  world : World
  turns : List Turn

/-- One more turn has been taken, and has led to another world. -/
def Annals.turn (a : Annals) (c : Choice) (w : World) : Annals :=
  ⟨w, ⟨c, a.world⟩ :: a.turns⟩

@[simp] theorem Annals.world_turn (a : Annals) (c : Choice) (w : World) : (a.turn c w).world = w :=
  rfl

@[simp] theorem Annals.turns_turn (a : Annals) (c : Choice) (w : World) :
    (a.turn c w).turns = ⟨c, a.world⟩ :: a.turns :=
  rfl

/-- Programs by number, each as far as it has come, and the annals they share. -/
structure Crowd (α : Type) where
  annals : Annals
  threads : Nat → Thread α

variable {α β : Type}

/-- The first thing that the program `id` has to do. The right to log in again has to be free. -/
def Program.act (id : Nat) (w : World) : Program α → Option (Thread α × World)
  | .done _ => none
  | .look next => some (.ready (next w.shared), w)
  | .change f next => some (.ready next, w.change f)
  | .note _ next => some (.ready next, w)
  | .send call next => some (.awaiting call next, w.record (.sent id call))
  | .pause _ next => some (.ready next, w)
  | .acquire i next =>
    match w.holder i with
    | none => some (.ready next, w.grant i id)
    | some _ => none
  | .release i next => some (.ready next, w.free i)

/-- What a thread makes of its turn. -/
def Thread.act (w : World) : Thread α → Choice → Option (Thread α × World)
  | .ready p, .go id => p.act id w
  | .awaiting call next, .answer id r =>
    some (.ready (next r), w.record (.answered id call r))
  | _, _ => none

namespace Crowd

/-- The crowd with the thread `id` further on, in other annals. -/
def place (s : Crowd α) (id : Nat) (t : Thread α) (a : Annals) : Crowd α :=
  ⟨a, fun j => if j = id then t else s.threads j⟩

/-- One turn. -/
def step (s : Crowd α) (c : Choice) : Option (Crowd α) :=
  ((s.threads c.id).act s.annals.world c).map fun (t, w) => s.place c.id t (s.annals.turn c w)

/-- One turn after another. -/
def run (s : Crowd α) (cs : List Choice) : Option (Crowd α) :=
  cs.foldlM step s

variable {s s' : Crowd α} {c : Choice} {cs : List Choice} {id : Nat}

@[simp] theorem annals_place (s : Crowd α) (id : Nat) (t : Thread α) (a : Annals) :
    (s.place id t a).annals = a :=
  rfl

@[simp] theorem threads_place (s : Crowd α) (id : Nat) (t : Thread α) (a : Annals) :
    (s.place id t a).threads id = t := by
  simp [place]

theorem threads_place_of_ne {j : Nat} (h : j ≠ id) (s : Crowd α) (t : Thread α) (a : Annals) :
    (s.place id t a).threads j = s.threads j := by
  simp [place, h]

theorem place_self (s : Crowd α) (id : Nat) : s.place id (s.threads id) s.annals = s := by
  have hthreads : (fun j => if j = id then s.threads id else s.threads j) = s.threads := by
    funext j
    split
    · rename_i hj
      rw [hj]
    · rfl
  rw [place, hthreads]

@[simp] theorem place_place (s : Crowd α) (id : Nat) (t t' : Thread α) (a a' : Annals) :
    (s.place id t a).place id t' a' = s.place id t' a' := by
  have hthreads : (fun j => if j = id then t' else (s.place id t a).threads j) =
      fun j => if j = id then t' else s.threads j := by
    funext j
    split
    · rfl
    · rename_i hj
      exact threads_place_of_ne hj s t a
  rw [place, hthreads]
  rfl

/-- A thread that has something to do does it in its turn. -/
theorem step_of_act {t t' : Thread α} {w : World} (h : s.threads c.id = t)
    (hact : t.act s.annals.world c = some (t', w)) :
    s.step c = some (s.place c.id t' (s.annals.turn c w)) := by
  rw [step, h, hact]
  rfl

theorem run_cons : s.run (c :: cs) = (s.step c).bind fun s => s.run cs := by
  simp [run, List.foldlM_cons]

/-- What every turn keeps is kept by a run. -/
theorem run_invariant {P : Crowd α → Prop}
    (hstep : ∀ s c s', P s → s.step c = some s' → P s') (hr : s.run cs = some s') (h : P s) :
    P s' :=
  foldlM_invariant (fun s c s' _ => hstep s c s') hr (fun _ _ => trivial) h

end Crowd

/-! ## Turns of systems are runs of crowds -/

/-- A program as far as it has come. -/
def Stand.thread : Stand α → Thread α
  | .idle p => .ready p
  | .awaiting call next => .awaiting call next
  | .pausing time next => .ready (.pause time next)
  | .queueing i next => .ready (.acquire i next)
  | .ended a => .ready (.done a)

/-- The programs of a system, after the turns. -/
def System.crowd (s : System α) (turns : List Turn) : Crowd α :=
  ⟨⟨s.world, turns⟩, fun id => (s.stands id).thread⟩

namespace Crowd

/-- Some turns take the program `id` to a stand and a world, and leave the others where they are. -/
def Reaches (s : Crowd α) (id : Nat) (turn : Stand α × World) : Prop :=
  ∃ cs turns, s.run cs = some (s.place id turn.1.thread ⟨turn.2, turns⟩)

variable {s : Crowd α} {c : Choice} {id : Nat} {turn : Stand α × World}

theorem Reaches.here {stand : Stand α} (h : s.threads id = stand.thread) :
    s.Reaches id (stand, s.annals.world) := by
  refine ⟨[], s.annals.turns, congrArg some ?_⟩
  exact ((congrArg (s.place id · s.annals) h.symm).trans (s.place_self id)).symm

theorem Reaches.step {t t' : Thread α} {w : World} (h : s.threads c.id = t)
    (hact : t.act s.annals.world c = some (t', w))
    (hrest : (s.place c.id t' (s.annals.turn c w)).Reaches c.id turn) : s.Reaches c.id turn := by
  obtain ⟨cs, turns, hrun⟩ := hrest
  refine ⟨c :: cs, turns, ?_⟩
  rw [run_cons, step_of_act h hact, Option.bind_some, hrun, place_place]

/-- A program gets to its next wait by single turns. -/
theorem reaches_settle {p : Program α} (h : s.threads id = .ready p) :
    s.Reaches id (p.settle id s.annals.world) := by
  induction p generalizing s with
  | done a => exact .here h
  | look next ih => exact .step (c := .go id) h rfl (ih _ (threads_place ..))
  | change f next ih => exact .step (c := .go id) h rfl (ih (threads_place ..))
  | note line next ih => exact .step (c := .go id) h rfl (ih (threads_place ..))
  | send call next ih => exact .step (c := .go id) h rfl (.here (threads_place ..))
  | pause time next ih => exact .here h
  | acquire i next ih => exact .here h
  | release i next ih => exact .step (c := .go id) h rfl (ih (threads_place ..))

end Crowd

namespace System

variable {s s' : System α} {c : Choice} {cs : List Choice}

/-- The turn of a system is a run of the crowd. -/
theorem reaches_of_entry {p : Program α} {w : World} (he : s.entry c = some (p, w))
    (turns : List Turn) :
    (s.crowd turns).Reaches c.id (p.settle c.id w) := by
  have hthread : (s.crowd turns).threads c.id = (s.stands c.id).thread := rfl
  obtain ⟨hstand, rfl⟩ | ⟨time, hstand, rfl⟩ | ⟨i, hstand, hfree, rfl⟩ |
    ⟨call, next, r, hstand, rfl, rfl⟩ := entry_cases he <;> rw [hstand] at hthread
  · exact Crowd.reaches_settle hthread
  · exact .step (c := .go c.id) hthread rfl (Crowd.reaches_settle (Crowd.threads_place ..))
  · have hact : (Stand.queueing i p).thread.act s.world (.go c.id) =
        some (.ready p, s.world.grant i c.id) := by
      simp [Stand.thread, Thread.act, Program.act, hfree]
    exact .step (c := .go c.id) hthread hact (Crowd.reaches_settle (Crowd.threads_place ..))
  · exact .step (c := .answer c.id r) hthread rfl
      (Crowd.reaches_settle (Crowd.threads_place ..))

theorem crowd_place (id : Nat) (turn : Stand α × World) (turns turns' : List Turn) :
    (s.place id turn).crowd turns' = (s.crowd turns).place id turn.1.thread ⟨turn.2, turns'⟩ := by
  have hthreads : (fun j => (if j = id then turn.1 else s.stands j).thread) =
      fun j => if j = id then turn.1.thread else (s.stands j).thread :=
    funext fun j => apply_ite Stand.thread ..
  rw [crowd, Crowd.place]
  exact congrArg (Crowd.mk _) hthreads

/-- What a system does in a turn, its programs can do by single turns. -/
theorem exists_run_of_step (hs : s.step c = some s') (turns : List Turn) :
    ∃ cs turns', (s.crowd turns).run cs = some (s'.crowd turns') := by
  obtain ⟨⟨p, w⟩, he, rfl⟩ := Option.map_eq_some_iff.1 hs
  obtain ⟨cs, turns', hrun⟩ := reaches_of_entry he turns
  exact ⟨cs, turns', hrun.trans (congrArg some (crowd_place ..).symm)⟩

theorem exists_run_of_run (hr : s.run cs = some s') (turns : List Turn) :
    ∃ cs' turns', (s.crowd turns).run cs' = some (s'.crowd turns') := by
  induction cs generalizing s turns with
  | nil =>
    cases hr
    exact ⟨[], turns, rfl⟩
  | cons c cs ih =>
    rw [run_cons] at hr
    obtain ⟨s₁, hs, hr⟩ := Option.bind_eq_some_iff.1 hr
    obtain ⟨cs₁, turns₁, hfirst⟩ := exists_run_of_step hs turns
    obtain ⟨cs₂, turns₂, hrest⟩ := ih hr turns₁
    refine ⟨cs₁ ++ cs₂, turns₂, ?_⟩
    rw [Crowd.run, List.foldlM_append]
    exact (congrArg (Option.bind · _) hfirst).trans hrest

end System

/-! ## Pacts -/

/-- What a program relies on before each of its turns, and what it guarantees of each. -/
structure Pact where
  rely : Annals → Annals → Prop
  guarantee : Annals → Annals → Prop

/-- A turn that the pact allows, after which the rest holds. -/
def Pact.Allows (P : Pact) (a : Annals) (c : Choice) (w : World) (rest : Annals → Prop) : Prop :=
  P.guarantee a (a.turn c w) ∧ rest (a.turn c w)

theorem Pact.Allows.imp {P : Pact} {a : Annals} {c : Choice} {w : World}
    {rest rest' : Annals → Prop} (h : P.Allows a c w rest)
    (himp : rest (a.turn c w) → rest' (a.turn c w)) : P.Allows a c w rest' :=
  ⟨h.1, himp h.2⟩

/-- From the annals on, the program `id` keeps its pact. If it comes to its end, `post` holds of
the result. -/
def Program.Minds (P : Pact) (id : Nat) (post : α → Annals → Prop) : Program α → Annals → Prop
  | .done x, a => post x a
  | .look next, a => ∀ b, P.rely a b →
    P.Allows b (.go id) b.world ((next b.world.shared).Minds P id post)
  | .change f next, a => ∀ b, P.rely a b →
    P.Allows b (.go id) (b.world.change f) (next.Minds P id post)
  | .note _ next, a => ∀ b, P.rely a b → P.Allows b (.go id) b.world (next.Minds P id post)
  | .send call next, a => ∀ b, P.rely a b →
    P.Allows b (.go id) (b.world.record (.sent id call)) fun b => ∀ b' r, P.rely b b' →
      P.Allows b' (.answer id r) (b'.world.record (.answered id call r))
        ((next r).Minds P id post)
  | .pause _ next, a => ∀ b, P.rely a b → P.Allows b (.go id) b.world (next.Minds P id post)
  | .acquire i next, a => ∀ b, P.rely a b → b.world.holder i = none →
    P.Allows b (.go id) (b.world.grant i id) (next.Minds P id post)
  | .release i next, a => ∀ b, P.rely a b →
    P.Allows b (.go id) (b.world.free i) (next.Minds P id post)

variable {P : Pact} {id : Nat} {a b : Annals}

/-- To go on with the result of a program is to keep the pact from where it ends. -/
theorem Program.minds_bind {p : Program α} {f : α → Program β} {post : β → Annals → Prop} :
    (p.bind f).Minds P id post a ↔ p.Minds P id (fun x => (f x).Minds P id post) a := by
  induction p generalizing a with
  | done x => rfl
  | look next ih => exact forall₂_congr fun b _ => and_congr_right fun _ => ih _
  | change g next ih => exact forall₂_congr fun b _ => and_congr_right fun _ => ih
  | note line next ih => exact forall₂_congr fun b _ => and_congr_right fun _ => ih
  | send call next ih =>
    exact forall₂_congr fun b _ => and_congr_right fun _ =>
      forall₃_congr fun b' r _ => and_congr_right fun _ => ih r
  | pause time next ih => exact forall₂_congr fun b _ => and_congr_right fun _ => ih
  | acquire i next ih => exact forall₃_congr fun b _ _ => and_congr_right fun _ => ih
  | release i next ih => exact forall₂_congr fun b _ => and_congr_right fun _ => ih

/-- What follows in the end follows from the pact. -/
theorem Program.Minds.imp {p : Program α} {post post' : α → Annals → Prop}
    (h : p.Minds P id post a) (himp : ∀ x b, post x b → post' x b) : p.Minds P id post' a := by
  induction p generalizing a with
  | done x => exact himp x a h
  | look next ih => exact fun b hb => ⟨(h b hb).1, ih _ (h b hb).2⟩
  | change f next ih => exact fun b hb => ⟨(h b hb).1, ih (h b hb).2⟩
  | note line next ih => exact fun b hb => ⟨(h b hb).1, ih (h b hb).2⟩
  | send call next ih =>
    exact fun b hb => ⟨(h b hb).1, fun b' r hb' =>
      ⟨((h b hb).2 b' r hb').1, ih r ((h b hb).2 b' r hb').2⟩⟩
  | pause time next ih => exact fun b hb => ⟨(h b hb).1, ih (h b hb).2⟩
  | acquire i next ih => exact fun b hb hfree => ⟨(h b hb hfree).1, ih (h b hb hfree).2⟩
  | release i next ih => exact fun b hb => ⟨(h b hb).1, ih (h b hb).2⟩

/-- What is left of the program `id` keeps its pact. -/
def Thread.Minds (P : Pact) (id : Nat) (a : Annals) : Thread α → Prop
  | .ready p => p.Minds P id (fun _ _ => True) a
  | .awaiting call next => ∀ b r, P.rely a b →
    P.Allows b (.answer id r) (b.world.record (.answered id call r))
      ((next r).Minds P id fun _ _ => True)

/-- A pact outlives the turns of others. -/
theorem Thread.Minds.rely (htrans : ∀ a b c, P.rely a b → P.rely b c → P.rely a c)
    {t : Thread α} (h : t.Minds P id a) (hab : P.rely a b) : t.Minds P id b := by
  cases t with
  | awaiting call next => exact fun c r hbc => h c r (htrans _ _ _ hab hbc)
  | ready p =>
    cases p with
    | done x => trivial
    | look next => exact fun c hbc => h c (htrans _ _ _ hab hbc)
    | change f next => exact fun c hbc => h c (htrans _ _ _ hab hbc)
    | note line next => exact fun c hbc => h c (htrans _ _ _ hab hbc)
    | send call next => exact fun c hbc => h c (htrans _ _ _ hab hbc)
    | pause time next => exact fun c hbc => h c (htrans _ _ _ hab hbc)
    | acquire i next => exact fun c hbc => h c (htrans _ _ _ hab hbc)
    | release i next => exact fun c hbc => h c (htrans _ _ _ hab hbc)

/-- A thread keeps to its pact in its turn, and goes on keeping it. -/
theorem Thread.act_minds {t t' : Thread α} {c : Choice} {w : World} (h : t.Minds P c.id a)
    (hrefl : P.rely a a) (hact : t.act a.world c = some (t', w)) :
    P.Allows a c w fun b => t'.Minds P c.id b := by
  cases t with
  | awaiting call next =>
    cases c with
    | go id => cases hact
    | answer id r =>
      cases hact
      exact h a r hrefl
  | ready p =>
    cases c with
    | answer id r => cases hact
    | go id =>
      cases p with
      | done x => cases hact
      | look next =>
        cases hact
        exact h a hrefl
      | change f next =>
        cases hact
        exact h a hrefl
      | note line next =>
        cases hact
        exact h a hrefl
      | send call next =>
        cases hact
        exact h a hrefl
      | pause time next =>
        cases hact
        exact h a hrefl
      | acquire i next =>
        cases hfree : a.world.holder i with
        | none =>
          simp only [Thread.act, Program.act, hfree, Option.some.injEq, Prod.mk.injEq] at hact
          obtain ⟨rfl, rfl⟩ := hact
          exact h a hrefl hfree
        | some other => simp [Thread.act, Program.act, hfree] at hact
      | release i next =>
        cases hact
        exact h a hrefl

/-- Pacts for programs by number fit together: all turns keep the invariant, under which what one
program guarantees of its turns, the others rely on. -/
structure Harmony (inv : Annals → Prop) (P : Nat → Pact) : Prop where
  refl : ∀ id a, inv a → (P id).rely a a
  trans : ∀ id a b c, (P id).rely a b → (P id).rely b c → (P id).rely a c
  keeps : ∀ id a b, (P id).guarantee a b → inv b
  turn : ∀ id other, other ≠ id → ∀ a b, (P id).guarantee a b → (P other).rely a b

namespace Crowd

/-- Every program keeps its pact from now on. -/
def Minds (P : Nat → Pact) (s : Crowd α) : Prop :=
  ∀ id, (s.threads id).Minds (P id) id s.annals

variable {inv : Annals → Prop} {P : Nat → Pact} {s s' : Crowd α} {c : Choice} {cs : List Choice}

/-- A turn keeps to the pact of the program whose turn it is, and all programs go on keeping
theirs. -/
theorem step_minds (hP : Harmony inv P) (hinv : inv s.annals) (h : s.Minds P)
    (hs : s.step c = some s') : (P c.id).guarantee s.annals s'.annals ∧ s'.Minds P := by
  obtain ⟨⟨t, w⟩, hact, rfl⟩ := Option.map_eq_some_iff.1 hs
  obtain ⟨hturn, ht⟩ := Thread.act_minds (h c.id) (hP.refl c.id _ hinv) hact
  refine ⟨hturn, fun id => ?_⟩
  by_cases hid : id = c.id
  · subst hid
    simpa using ht
  · have hother : (s.threads id).Minds (P id) id (s.annals.turn c w) :=
      (h id).rely (hP.trans id) (hP.turn c.id id hid _ _ hturn)
    simpa [threads_place_of_ne hid] using hother

/-- In a run the invariant is kept, and all programs go on keeping their pacts. -/
theorem run_minds (hP : Harmony inv P) (hinv : inv s.annals) (h : s.Minds P)
    (hr : s.run cs = some s') : inv s'.annals ∧ s'.Minds P :=
  run_invariant (P := fun s => inv s.annals ∧ s.Minds P)
    (fun _ _ _ h hs =>
      have hturn := step_minds hP h.1 h.2 hs
      ⟨hP.keeps _ _ _ hturn.1, hturn.2⟩) hr ⟨hinv, h⟩

end Crowd

end PoolClient
