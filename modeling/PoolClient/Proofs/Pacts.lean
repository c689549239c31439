import PoolClient.Proofs.Footprint
import PoolClient.Proofs.Preemption
import PoolClient.Proofs.Redirection
/-!
# Programs that keep pacts

To keep a pact, a program keeps a condition up from turn to turn, under which the pact allows all
that it does. Two kinds of programs are treated here once for all pacts. A program within a
footprint keeps a pact that allows whatever the footprint has room for
(`Program.minds_of_within`). A call to the pool looks for the active endpoint, is sent, moves the
active endpoint if the answer names a master, and is sent again; it keeps a pact that allows each
of these turns (`Pact.Carries.callPool_minds`).
-/

namespace PoolClient

open Time

/-! ## Programs within a footprint -/

/-- What a turn within the footprint makes of the world. -/
structure World.Changes (F : Footprint) (w w' : World) : Prop where
  shared : F.changes w.shared w'.shared
  holder : ∀ i, ¬F.rights i → w'.holder i = w.holder i

/-- All that is left to do is within the footprint. -/
def Thread.Within {α : Type} (F : Footprint) : Thread α → Prop
  | .ready p => p.Within F
  | .awaiting _ next => ∀ r, (next r).Within F

section Within

variable {α : Type} {F : Footprint} {P : Pact} {id : Nat} {A : Annals → Prop} {a : Annals}

/-- A program within a footprint keeps a pact that allows all turns within it. -/
theorem Program.minds_of_within (hallows : ∀ a b c w, A a → P.rely a b → c.id = id →
      b.world.Changes F w → P.Allows b c w A)
    {p : Program α} (hp : p.Within F) (ha : A a) : p.Minds P id (fun _ _ => True) a := by
  have hquiet : ∀ a b c w, A a → P.rely a b → c.id = id → w.shared = b.world.shared →
      w.holder = b.world.holder → P.Allows b c w A := by
    intro a b c w ha hab hc hshared hholder
    exact hallows a b c w ha hab hc ⟨hshared ▸ F.refl _, fun i _ => by rw [hholder]⟩
  have hright : ∀ {i j : Nat}, F.rights i → ¬F.rights j → j ≠ i := by
    rintro i j hi hj rfl
    exact hj hi
  induction p generalizing a with
  | done x => trivial
  | look next ih => exact fun b hab => .imp (hquiet a b _ _ ha hab rfl rfl rfl) (ih _ (hp _))
  | change f next ih =>
    exact fun b hab => .imp (hallows a b _ _ ha hab rfl ⟨hp.1 _, fun _ _ => rfl⟩) (ih hp.2)
  | note line next ih => exact fun b hab => .imp (hquiet a b _ _ ha hab rfl rfl rfl) (ih hp)
  | send call next ih =>
    refine fun b hab => .imp (hquiet a b _ _ ha hab rfl rfl rfl) fun hb b' r hab' => ?_
    exact .imp (hquiet _ b' _ _ hb hab' rfl rfl rfl) (ih r (hp r))
  | pause time next ih => exact fun b hab => .imp (hquiet a b _ _ ha hab rfl rfl rfl) (ih hp)
  | acquire i next ih =>
    refine fun b hab _ => .imp (hallows a b _ _ ha hab rfl ⟨F.refl _, fun j hj => ?_⟩) (ih hp.2)
    exact if_neg (hright hp.1 hj)
  | release i next ih =>
    refine fun b hab => .imp (hallows a b _ _ ha hab rfl ⟨F.refl _, fun j hj => ?_⟩) (ih hp.2)
    exact if_neg (hright hp.1 hj)

theorem Thread.minds_of_within (hallows : ∀ a b c w, A a → P.rely a b → c.id = id →
      b.world.Changes F w → P.Allows b c w A)
    {t : Thread α} (ht : t.Within F) (ha : A a) : t.Minds P id a := by
  cases t with
  | ready p => exact Program.minds_of_within hallows ht ha
  | awaiting call next =>
    refine fun b r hab => .imp (hallows a b _ _ ha hab rfl ⟨F.refl _, fun _ _ => rfl⟩) ?_
    exact Program.minds_of_within hallows (ht r)

end Within

/-! ## Calls to the pool -/

/-- Where `A` holds, the pact allows the program `id` all turns of a call with the method and the
parameters. `A` holds again after each of them, except that `post` holds after an answer; after an
error the two are the same. -/
structure Pact.Carries (P : Pact) (id : Nat) (method : String) (params : List Value)
    (A : Annals → Prop) (post : Outcome Value → Annals → Prop) : Prop where
  rest : ∀ a b, A a → P.rely a b → P.Allows b (.go id) b.world A
  move : ∀ a b source target, A a → P.rely a b → P.Allows b (.go id)
    (b.world.change fun s => { s with client := s.client.redirect source target }) A
  send : ∀ a b call, A a → P.rely a b → call.method = method → call.params = params →
    P.Allows b (.go id) (b.world.record (.sent id call)) A
  answer : ∀ a b call r, A a → P.rely a b →
    P.Allows b (.answer id r) (b.world.record (.answered id call r)) (post r)
  error : ∀ e a, post (.error e) a ↔ A a

namespace Pact.Carries

variable {P : Pact} {id : Nat} {method : String} {params : List Value} {A : Annals → Prop}
  {post : Outcome Value → Annals → Prop} {a : Annals}

theorem redirect_minds (h : P.Carries id method params A post) (source target : Endpoint)
    (ha : A a) : (redirect source target).Minds P id (fun _ => A) a := by
  refine fun b hab => (h.rest a b ha hab).imp fun hb => ?_
  dsimp only
  split
  · refine fun b' hab' => (h.rest _ b' hb hab').imp fun hb' => ?_
    exact fun b'' hab'' => h.move _ b'' _ _ hb' hab''
  · exact hb

/-- The answer to the second attempt has what the answer of its host has. -/
theorem secondAnswer (h : P.Carries id method params A post) {master : String}
    {r : Outcome Value} (hr : post r a) : post (PoolClient.secondAnswer master r) a := by
  cases hsecond : PoolClient.secondAnswer master r with
  | ok v =>
    rw [secondAnswer_eq_ok_iff] at hsecond
    rwa [← hsecond]
  | error e =>
    cases r with
    | ok v =>
      have hok : PoolClient.secondAnswer master (.ok v) = .ok v := rfl
      rw [hok] at hsecond
      cases hsecond
    | error e' => exact (h.error e a).2 ((h.error e' a).1 hr)

/-- A call that is sent keeps the pact until its answer is known. -/
theorem send_minds {f : Outcome Value → Outcome Value} {call : Call}
    (h : P.Carries id method params A post) (hmethod : call.method = method)
    (hparams : call.params = params) (hf : ∀ r b, post r b → post (f r) b) (ha : A a) :
    (Program.send call fun r => .done (f r)).Minds P id post a := by
  refine fun b hab => (h.send a b call ha hab hmethod hparams).imp fun hb b' r hab' => ?_
  exact (h.answer _ b' call r hb hab').imp (hf r _)

theorem followUp_minds {first : Call} {r : Outcome Value}
    (h : P.Carries id method params A post) (hmethod : first.method = method)
    (hparams : first.params = params) (hr : post r a) :
    (followUp first r).Minds P id post a := by
  cases r with
  | ok v => exact hr
  | error e =>
    rw [followUp]
    split
    · exact hr
    · refine Program.minds_bind.2 ?_
      refine (h.redirect_minds _ _ ((h.error e a).1 hr)).imp fun _ b hb => ?_
      exact h.send_minds hmethod hparams (fun _ _ => h.secondAnswer) hb

theorem callPool_minds (h : P.Carries id method params A post) (deadline : Option Duration)
    (ha : A a) : (callPool method params deadline).Minds P id post a := by
  rw [callPool_eq]
  refine fun b hab => (h.rest a b ha hab).imp fun hb => ?_
  refine fun b' hab' => (h.send _ b' _ hb hab' rfl rfl).imp fun hb' b'' r hab'' => ?_
  exact (h.answer _ b'' _ r hb' hab'').imp fun hr => h.followUp_minds rfl rfl hr

end Pact.Carries

end PoolClient
