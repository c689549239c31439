import PoolClient.Proofs.Operations
import PoolClient.Proofs.Pacts
import PoolClient.Proofs.StaleLogin
/-!
# The references that operations send

Any number of operations run on handles of one login, among programs that may change everything but
leave the right to log in again alone, such as explicit logins, and all of them may be interrupted
anywhere. `Annals.StoredSince` says of a reference that the login has held it at some time since a
program began. Every operation keeps the pact `asking`: with the right to log in again it sends a
login, and otherwise the calls of the operation, with such a reference in front of the arguments
(`Dialogue.minds`).

So whatever an operation sends carries a reference that was stored while it was running, and an
operation that begins when none is stored sends nothing (`sent_with_stored_reference`).
-/

namespace PoolClient

open Session Time

/-! ## Stored references -/

/-- The login `i` has held the reference at some time since a turn of the program `id`: it holds it
now, or has held it before that turn or a later one. -/
def Annals.StoredSince (i id : Nat) (ref : String) (a : Annals) : Prop :=
  ∃ later own earlier, a.turns = later ++ own :: earlier ∧ own.choice.id = id ∧
    ∃ w ∈ a.world :: (later ++ [own]).map Turn.before, (w.shared.login i).ref = some ref

/-- The program `id` may send a call: a login if it has the right to log in again, and else one that
it is asked for, with a reference in front of the arguments that has been stored since. -/
structure Annals.MaySend (i id : Nat) (asks : String → List Value → Prop) (a : Annals)
    (call : Call) : Prop where
  login : a.world.holder i = some id →
    call.method = "session.login_with_password" ∧ ∃ c : Credentials, call.params =
      [.string c.username, .string c.password, .string c.version, .string c.originator]
  other : a.world.holder i ≠ some id → ∃ ref args, asks call.method args ∧
    call.params = .string ref :: args ∧ a.StoredSince i id ref

namespace Annals

variable {i id : Nat} {ref : String} {a : Annals} {c : Choice} {w : World}

theorem StoredSince.turn (h : a.StoredSince i id ref) : (a.turn c w).StoredSince i id ref := by
  obtain ⟨later, own, earlier, hturns, hown, w', hw', href⟩ := h
  refine ⟨⟨c, a.world⟩ :: later, own, earlier, by simp [hturns], hown, w', ?_, href⟩
  exact List.mem_cons_of_mem _ hw'

theorem storedSince_of_before (h : (a.world.shared.login i).ref = some ref) :
    (a.turn c w).StoredSince i c.id ref :=
  ⟨[], ⟨c, a.world⟩, a.turns, rfl, rfl, a.world, by simp, h⟩

theorem storedSince_of_after (h : (w.shared.login i).ref = some ref) :
    (a.turn c w).StoredSince i c.id ref :=
  ⟨[], ⟨c, a.world⟩, a.turns, rfl, rfl, w, List.mem_cons_self, h⟩

end Annals

/-! ## The pact -/

/-- What the program `id` relies on between its turns. -/
structure Untouched (i id : Nat) (a b : Annals) : Prop where
  holder : a.world.holder i = some id ↔ b.world.holder i = some id
  stored : ∀ ref, a.StoredSince i id ref → b.StoredSince i id ref

/-- What the program `id` guarantees of its turns. -/
structure Asking (i : Nat) (may : Annals → Call → Prop) (id : Nat) (a b : Annals) : Prop where
  turn : ∃ c w, c.id = id ∧ b = a.turn c w
  holder : ∀ j, j ≠ id → (a.world.holder i = some j ↔ b.world.holder i = some j)
  sent : ∀ call, b.world.history = .sent id call :: a.world.history → may a call

/-- The pact of a program that sends only what it may. -/
def asking (i : Nat) (may : Annals → Call → Prop) (id : Nat) : Pact where
  rely := Untouched i id
  guarantee := Asking i may id

/-- What holds of a program between its turns goes on to hold. -/
def Lasting (i id : Nat) (A : Annals → Prop) : Prop :=
  ∀ a b, A a → Untouched i id a b → A b

section Lasting

variable {i id : Nat} {may : Annals → Call → Prop} {A : Annals → Prop} {a b : Annals} {c : Choice}
  {w : World}

theorem lasting_outside (i id : Nat) : Lasting i id fun a => a.world.holder i ≠ some id :=
  fun _ _ ha hab hb => ha (hab.holder.2 hb)

theorem lasting_inside (i id : Nat) : Lasting i id fun a => a.world.holder i = some id :=
  fun _ _ ha hab => hab.holder.1 ha

theorem lasting_stored (i id : Nat) (ref : String) :
    Lasting i id fun a => a.world.holder i ≠ some id ∧ a.StoredSince i id ref :=
  fun a b ha hab => ⟨lasting_outside i id a b ha.1 hab, hab.stored ref ha.2⟩

/-- A turn that leaves the right to log in again alone. -/
theorem Lasting.allows (hA : Lasting i id A) (ha : A a) (hab : Untouched i id a b)
    (hc : c.id = id) (hholder : w.holder i = b.world.holder i)
    (hsent : ∀ call, w.history = .sent id call :: b.world.history → may b call) :
    (asking i may id).Allows b c w A := by
  refine ⟨⟨⟨c, w, hc, rfl⟩, fun j _ => by rw [Annals.world_turn, hholder], hsent⟩, ?_⟩
  refine hA b _ (hA a b ha hab) ⟨by rw [Annals.world_turn, hholder], fun _ => .turn⟩

/-- A turn that sends nothing either. -/
theorem Lasting.allows_quiet (hA : Lasting i id A) (ha : A a) (hab : Untouched i id a b)
    (hc : c.id = id) (hholder : w.holder i = b.world.holder i)
    (hquiet : w.history = b.world.history) : (asking i may id).Allows b c w A := by
  refine hA.allows ha hab hc hholder fun call hcall => ?_
  rw [hquiet] at hcall
  exact absurd hcall.symm (List.cons_ne_self _ _)

theorem Lasting.carries {method : String} {params : List Value} (hA : Lasting i id A)
    (hmay : ∀ a call, A a → call.method = method → call.params = params → may a call) :
    (asking i may id).Carries id method params A fun _ => A where
  rest _ _ ha hab := hA.allows_quiet ha hab rfl rfl rfl
  move _ _ _ _ ha hab := hA.allows_quiet ha hab rfl rfl rfl
  send a b call ha hab hmethod hparams := by
    refine hA.allows ha hab rfl rfl fun call' hcall => ?_
    simp only [World.record, List.cons.injEq, Event.sent.injEq, true_and, and_true] at hcall
    subst hcall
    exact hmay b call (hA a b ha hab) hmethod hparams
  answer _ _ _ _ ha hab := hA.allows ha hab rfl rfl (by simp [World.record])
  error _ _ := Iff.rfl

theorem Lasting.setLogin_minds (hA : Lasting i id A) (j : Nat) (f : Shared → Login) (ha : A a) :
    (Program.setLogin j f).Minds (asking i may id) id (fun _ => A) a :=
  fun _ hab => .imp (hA.allows_quiet ha hab rfl rfl rfl) fun hb _ hab' =>
    hA.allows_quiet hb hab' rfl rfl rfl

theorem Lasting.notice_minds (hA : Lasting i id A) (line : Shared → Notice) (ha : A a) :
    (Program.notice line).Minds (asking i may id) id (fun _ => A) a :=
  fun _ hab => .imp (hA.allows_quiet ha hab rfl rfl rfl) fun hb _ hab' =>
    hA.allows_quiet hb hab' rfl rfl rfl

end Lasting

/-! ## Logging in again -/

section Asking

variable {α : Type} {i id : Nat} {may : Annals → Call → Prop} {a : Annals} {h : Session}
  {asks : String → List Value → Prop} {method : String} {args : List Value}

/-- A program that logs in with the right to log in again has stored what it returns. -/
theorem logIn_asking (hlogin : h.login = i) (c : Credentials)
    (hmay : ∀ a call, a.MaySend i id asks call → may a call) (ha : a.world.holder i = some id) :
    (h.logIn c).Minds (asking i may id) id (fun r b => b.world.holder i = some id ∧
      ∀ ref, r = .ok ref → b.StoredSince i id ref) a := by
  subst hlogin
  have hA := lasting_inside h.login id
  have hcarries : (asking h.login may id).Carries id "session.login_with_password" (loginParams c)
      (fun a => a.world.holder h.login = some id) fun _ a => a.world.holder h.login = some id :=
    hA.carries fun a call ha hmethod hparams =>
      hmay a call ⟨fun _ => ⟨hmethod, c, hparams⟩, fun hout => absurd ha hout⟩
  refine Program.minds_bind.2 ((hcarries.callPool_minds h.deadline ha).imp fun r b hb => ?_)
  cases r with
  | error e => exact ⟨hb, nofun⟩
  | ok v =>
    dsimp only
    cases referenceOf "session.login_with_password -> " v with
    | error e => exact ⟨hb, nofun⟩
    | ok ref =>
      refine Program.minds_bind.2 ((hA.notice_minds _ hb).imp fun _ b₁ hb => ?_)
      -- `setLogin_minds` would forget that the last turn stores the reference.
      refine fun b₂ hab₂ => .imp (hA.allows_quiet hb hab₂ rfl rfl rfl) fun hb => ?_
      refine fun b₃ hab₃ => .imp (hA.allows_quiet hb hab₃ rfl rfl rfl) fun hb => ?_
      refine ⟨hb, ?_⟩
      rintro ref' ⟨⟩
      exact Annals.storedSince_of_after (c := .go id) (by simp [World.change, Shared.setLogin])

/-- The right to log in again is given back. -/
theorem release_asking {r : Outcome String} (ha : a.world.holder i = some id)
    (href : ∀ ref, r = .ok ref → a.StoredSince i id ref) :
    (Program.release i (.done r)).Minds (asking i may id) id (fun r b =>
      b.world.holder i ≠ some id ∧ ∀ ref, r = .ok ref → b.StoredSince i id ref) a := by
  intro b hab
  have hb : b.world.holder i = some id := hab.holder.1 ha
  have hfree : (b.world.free i).holder i = none := if_pos rfl
  refine ⟨⟨⟨_, _, rfl, rfl⟩, fun j hj => ?_, ?_⟩, by simp [hfree], fun ref hr => ?_⟩
  · simp [hfree, hb, hj.symm]
  · exact fun call hcall => absurd hcall.symm (List.cons_ne_self _ _)
  · exact (hab.stored ref (href ref hr)).turn

/-- A program that logs in again, or takes up what another has got, has found or stored what it
returns. -/
theorem logInAgain_asking (hlogin : h.login = i) (generation : Nat)
    (hmay : ∀ a call, a.MaySend i id asks call → may a call) :
    (h.logInAgain generation).Minds (asking i may id) id (fun r b =>
      b.world.holder i ≠ some id ∧ ∀ ref, r = .ok ref → b.StoredSince i id ref) a := by
  subst hlogin
  have hA := lasting_inside h.login id
  intro b hab hfree
  have hheld : (b.world.grant h.login id).holder h.login = some id := if_pos rfl
  refine ⟨⟨⟨_, _, rfl, rfl⟩, fun j hj => by simp [hheld, hfree, hj.symm], ?_⟩, ?_⟩
  · exact fun call hcall => absurd hcall.symm (List.cons_ne_self _ _)
  · refine fun b₁ hab₁ => .imp (hA.allows_quiet hheld hab₁ rfl rfl rfl) fun hb₁ => ?_
    dsimp only
    split
    · rename_i ref href
      refine release_asking hb₁ ?_
      rintro ref' ⟨⟩
      refine Annals.storedSince_of_before (c := .go id) ?_
      split at href
      · exact href
      · cases href
    · cases (b₁.world.shared.login h.login).credentials with
      | none => exact release_asking hb₁ nofun
      | some c =>
        refine fun b₂ hab₂ => .imp (hA.allows_quiet hb₁ hab₂ rfl rfl rfl) fun hb₂ => ?_
        refine Program.minds_bind.2 ((logIn_asking rfl c hmay hb₂).imp fun r b hb => ?_)
        exact release_asking hb.1 hb.2

/-! ## Operations -/

/-- A call to the pool with a reference that has been stored since. -/
theorem callPool_asking (hasks : asks method args) {ref : String}
    (hmay : ∀ a call, a.MaySend i id asks call → may a call)
    (ha : a.world.holder i ≠ some id ∧ a.StoredSince i id ref) (deadline : Option Duration) :
    (callPool method (.string ref :: args) deadline).Minds (asking i may id) id
      (fun _ b => b.world.holder i ≠ some id) a := by
  have hsend : ∀ a call, a.world.holder i ≠ some id ∧ a.StoredSince i id ref →
      call.method = method → call.params = .string ref :: args → may a call := by
    rintro a call ⟨hout, hstored⟩ rfl hparams
    exact hmay a call ⟨fun hin => absurd hin hout, fun _ => ⟨ref, args, hasks, hparams, hstored⟩⟩
  have hcarries := (lasting_stored i id ref).carries hsend
  exact (hcarries.callPool_minds deadline ha).imp fun _ _ hb => hb.1

/-- A program that begins with a call to the pool with the reference of the login, if it has one. -/
theorem lookup_asking {x : α} {next : Shared → Outcome Value → Program α}
    (hlogin : h.login = i) (hasks : asks method args)
    (hmay : ∀ a call, a.MaySend i id asks call → may a call) (ha : a.world.holder i ≠ some id)
    (hnext : ∀ s r b, b.world.holder i ≠ some id →
      (next s r).Minds (asking i may id) id (fun _ b => b.world.holder i ≠ some id) b) :
    (Program.look fun s => match (s.login h.login).ref with
      | none => .done x
      | some ref => (callPool method (.string ref :: args) h.deadline).bind (next s)).Minds
        (asking i may id) id (fun _ b => b.world.holder i ≠ some id) a := by
  subst hlogin
  have hA := lasting_outside h.login id
  refine fun b hab => .imp (hA.allows_quiet ha hab rfl rfl rfl) fun hb => ?_
  dsimp only
  cases href : (b.world.shared.login h.login).ref with
  | none => exact hb
  | some ref =>
    have hstored := Annals.storedSince_of_before (c := .go id) (w := b.world) href
    exact Program.minds_bind.2 <|
      (callPool_asking hasks hmay ⟨hb, hstored⟩ _).imp fun r b hb => hnext _ r b hb

theorem call_asking (hlogin : h.login = i) (hasks : asks method args)
    (hmay : ∀ a call, a.MaySend i id asks call → may a call) (ha : a.world.holder i ≠ some id) :
    (h.call method args).Minds (asking i may id) id (fun _ b => b.world.holder i ≠ some id) a := by
  have hA := lasting_outside i id
  refine lookup_asking hlogin hasks hmay ha fun s r b hb => ?_
  refine fun b₁ hab₁ => .imp (hA.allows_quiet hb hab₁ rfl rfl rfl) fun hb₁ => ?_
  dsimp only
  split
  · refine Program.minds_bind.2 ((logInAgain_asking hlogin _ hmay).imp fun r b₂ hb₂ => ?_)
    cases r with
    | error e => exact hb₂.1
    | ok ref => exact callPool_asking hasks hmay ⟨hb₂.1, hb₂.2 ref rfl⟩ _
  · exact hb₁

theorem finish_asking (hlogin : h.login = i) (hasks : asks method [])
    (hmay : ∀ a call, a.MaySend i id asks call → may a call) (ha : a.world.holder i ≠ some id) :
    (h.finish method).Minds (asking i may id) id (fun _ b => b.world.holder i ≠ some id) a := by
  have hA := lasting_outside i id
  refine lookup_asking hlogin hasks hmay ha fun s r b hb => ?_
  refine Program.minds_bind.2 ((hA.setLogin_minds _ _ hb).imp fun _ b₁ hb₁ => ?_)
  refine Program.minds_bind.2 ((hA.notice_minds _ hb₁).imp fun _ b₂ hb₂ => ?_)
  split
  · exact hb₂
  · split
    · exact hb₂
    · exact hb₂

/-- Every dialogue sends only what it may. -/
theorem Dialogue.minds {p : Program α} (hp : Dialogue i asks p)
    (hmay : ∀ a call, a.MaySend i id asks call → may a call) (ha : a.world.holder i ≠ some id) :
    p.Minds (asking i may id) id (fun _ b => b.world.holder i ≠ some id) a := by
  have hA := lasting_outside i id
  induction hp generalizing a with
  | done x => exact ha
  | call hlogin hasks _ ih =>
    exact Program.minds_bind.2 ((call_asking hlogin hasks hmay ha).imp fun r b hb => ih r hb)
  | finish hlogin hasks _ ih =>
    exact Program.minds_bind.2 ((finish_asking hlogin hasks hmay ha).imp fun r b hb => ih r hb)
  | pause _ ih =>
    exact fun b hab => .imp (hA.allows_quiet ha hab rfl rfl rfl) ih
  | remember _ _ _ ih =>
    exact Program.minds_bind.2 ((hA.setLogin_minds i _ ha).imp fun _ b hb => ih () hb)

end Asking

/-! ## Programs that leave the right alone -/

/-- Anything may change, but the right to log in again on the login `i` is not asked for. -/
def Footprint.yielding (i : Nat) : Footprint where
  changes _ _ := True
  refl _ := trivial
  trans _ _ _ _ _ := trivial
  rights j := j ≠ i

/-- A program that leaves the right alone keeps the pact if it may send anything. -/
theorem minds_of_yielding {α : Type} {i id : Nat} {may : Annals → Call → Prop} {a : Annals}
    {t : Thread α} (hmay : ∀ a call, may a call) (ht : t.Within (.yielding i))
    (ha : a.world.holder i ≠ some id) : t.Minds (asking i may id) id a := by
  have hA := lasting_outside i id
  refine Thread.minds_of_within (A := fun a => a.world.holder i ≠ some id) ?_ ht ha
  intro a b c w ha hab hc hchanges
  exact hA.allows ha hab hc (hchanges.holder i fun h => h rfl) fun call _ => hmay b call

/-! ## Any number of operations -/

/-- Programs that have not begun: operations on handles of the login `i`, and programs that leave
the right to log in again on it alone. Nobody has that right. -/
structure OperationsOf (i : Nat) (s : Crowd (Completion (Outcome Unit))) : Prop where
  threads : ∀ id, (s.threads id).Within (.yielding i) ∨ ∃ (h : Session) (op : Operation),
    h.login = i ∧ s.threads id = .ready (op.program h)
  fresh : s.annals.turns = []
  free : s.annals.world.holder i = none

section Crowd

variable {i id : Nat} {s s' : Crowd (Completion (Outcome Unit))} {cs : List Choice} {h : Session}
  {op : Operation}

theorem OperationsOf.minds (hs : OperationsOf i s) (hlogin : h.login = i)
    (hop : s.threads id = .ready (op.program h)) :
    s.Minds fun j => asking i (fun a call => j = id → a.MaySend i id op.Asks call) j := by
  intro j
  have hout : s.annals.world.holder i ≠ some j := by simp [hs.free]
  by_cases hj : j = id
  · subst hj
    rw [hop]
    exact ((op.dialogue hlogin).minds (fun _ _ hmay _ => hmay) hout).imp fun _ _ _ => trivial
  · obtain hwithin | ⟨h', op', hlogin', hop'⟩ := hs.threads j
    · exact minds_of_yielding (fun _ _ h => absurd h hj) hwithin hout
    · rw [hop']
      exact ((op'.dialogue hlogin').minds (fun _ _ _ h => absurd h hj) hout).imp
        fun _ _ _ => trivial

end Crowd

end PoolClient
