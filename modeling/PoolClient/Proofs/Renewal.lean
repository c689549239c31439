import PoolClient.Proofs.Pacts
/-!
# Renewals of a login

A call remembers the login that it has found in its first turn (`Annals.found`). A `Renewal` is a
login that has been answered with a reference while its program had the right to log in again. It
replaces the login that it renews when the program stores it, some turns later.

`Renewed` is what every turn keeps: the generations of the logins that are replaced increase from
renewal to renewal, and stay below that of the client. `renewing` is the pact by which the programs
of a crowd keep it (`harmony_renewing`), and programs that leave the login alone keep that pact
(`Annals.Outside.minds`).
-/

namespace PoolClient

open Session

/-! ## Renewals -/

/-- A login that has succeeded while its program had the right to log in again: the login that it
is to replace, and the new reference. -/
structure Renewal where
  id : Nat
  replaced : Login
  ref : String

/-- What the turn of a program with the right to log in again on the login `i` has renewed. -/
def Turn.renewal? (i : Nat) (t : Turn) : Option Renewal :=
  match t.choice with
  | .answer id (.ok v) =>
    if t.before.holder i = some id then
      match referenceOf "session.login_with_password -> " v with
      | .ok ref => some ⟨id, t.before.shared.login i, ref⟩
      | .error _ => none
    else none
  | _ => none

/-- The login `i` as the program `id` finds it, if this is its turn. -/
def Turn.found? (i id : Nat) (t : Turn) : Option Login :=
  if t.choice.id = id then some (t.before.shared.login i) else none

namespace Annals

/-- The renewals of the login `i`, the last first. -/
def renewals (a : Annals) (i : Nat) : List Renewal :=
  a.turns.filterMap (Turn.renewal? i)

/-- The login `i` as the program `id` has found it in its first turn. -/
def found (a : Annals) (i id : Nat) : Option Login :=
  a.turns.reverse.findSome? (Turn.found? i id)

/-- The program `id` has had the right to log in again on the login `i`. -/
def HasHad (a : Annals) (i id : Nat) : Prop :=
  ∃ t ∈ a.turns, t.before.holder i = some id

/-- There is a reference for the program `id` that comes from a later login than the one it has
found: from a renewal of that one, or of one that has come after it. -/
def Supplies (a : Annals) (i id : Nat) (ref : String) : Prop :=
  ∃ l, a.found i id = some l ∧
    ∃ r ∈ a.renewals i, r.ref = ref ∧ l.generation ≤ r.replaced.generation

variable {a b : Annals} {i id : Nat} {c : Choice} {w : World}

@[simp] theorem renewals_turn : (a.turn c w).renewals i =
    (Turn.renewal? i ⟨c, a.world⟩).toList ++ a.renewals i := by
  simp only [renewals, turns_turn, List.filterMap_cons]
  cases Turn.renewal? i ⟨c, a.world⟩ <;> rfl

@[simp] theorem found_turn : (a.turn c w).found i id =
    (a.found i id).or (if c.id = id then some (a.world.shared.login i) else none) := by
  simp [found, turns_turn, List.findSome?_append, Turn.found?]

@[simp] theorem hasHad_turn :
    (a.turn c w).HasHad i id ↔ a.world.holder i = some id ∨ a.HasHad i id := by
  simp [HasHad]

end Annals

/-- Only a program that has the right to log in again renews a login. -/
theorem Turn.renewal?_of_ne {i : Nat} {c : Choice} {w : World} (h : w.holder i ≠ some c.id) :
    Turn.renewal? i ⟨c, w⟩ = none := by
  cases c with
  | go id => rfl
  | answer id r =>
    cases r with
    | error e => rfl
    | ok v => exact if_neg h

/-- Only an answer renews a login. -/
theorem Turn.renewal?_go {i id : Nat} {w : World} : Turn.renewal? i ⟨.go id, w⟩ = none :=
  rfl

/-! ## The generations of renewed logins -/

/-- A login that has been renewed, since it was of the generation `g₀`. -/
structure Renewed (i g₀ : Nat) (a : Annals) : Prop where
  ref : (a.world.shared.login i).ref.isSome
  le_client : (a.world.shared.login i).generation ≤ a.world.shared.client.generation
  start : g₀ ≤ (a.world.shared.login i).generation
  found_le : ∀ id l, a.found i id = some l →
    l.generation ≤ (a.world.shared.login i).generation
  /-- The logins that have been replaced, the last first. -/
  sorted : (a.renewals i).Pairwise fun r r' => r'.replaced.generation < r.replaced.generation
  bounds : ∀ r ∈ a.renewals i, g₀ ≤ r.replaced.generation ∧
    r.replaced.generation ≤ (a.world.shared.login i).generation ∧
    r.replaced.generation < a.world.shared.client.generation
  /-- Who renews a login renews the one that it has found. -/
  own : ∀ r ∈ a.renewals i, ∃ l, a.found i r.id = some l ∧ l.generation = r.replaced.generation
  /-- While nobody has the right to log in again, all renewals have been stored. -/
  settled : a.world.holder i = none →
    ∀ r ∈ a.renewals i, r.replaced.generation < (a.world.shared.login i).generation
  /-- A login that is later than what a program has found comes from a renewal. -/
  source : ∀ id l, a.found i id = some l →
    l.generation < (a.world.shared.login i).generation →
    ∃ r ∈ a.renewals i, (a.world.shared.login i).ref = some r.ref ∧
      l.generation ≤ r.replaced.generation

namespace Renewed

variable {i g₀ : Nat} {a : Annals} {c : Choice} {w : World}

/-- A turn that finds the login finds it as it is. -/
theorem found_cases {id : Nat} {l : Login} (h : (a.turn c w).found i id = some l) :
    a.found i id = some l ∨ l = a.world.shared.login i := by
  rw [Annals.found_turn, Option.or_eq_some_iff] at h
  rcases h with h | ⟨-, h⟩
  · exact .inl h
  · split at h
    · exact .inr (Option.some.inj h).symm
    · cases h

theorem found_le_turn {id : Nat} {l : Login} (h : Renewed i g₀ a)
    (hl : (a.turn c w).found i id = some l) :
    l.generation ≤ (a.world.shared.login i).generation := by
  rcases found_cases hl with hl | rfl
  · exact h.found_le id l hl
  · exact Nat.le_refl _

theorem own_turn {r : Renewal} (h : Renewed i g₀ a) (hr : r ∈ a.renewals i) :
    ∃ l, (a.turn c w).found i r.id = some l ∧ l.generation = r.replaced.generation := by
  obtain ⟨l, hl, hsame⟩ := h.own r hr
  exact ⟨l, by simp [hl], hsame⟩

theorem source_turn {id : Nat} {l : Login} (h : Renewed i g₀ a)
    (hl : (a.turn c w).found i id = some l)
    (hlt : l.generation < (a.world.shared.login i).generation) :
    ∃ r ∈ a.renewals i, (a.world.shared.login i).ref = some r.ref ∧
      l.generation ≤ r.replaced.generation := by
  rcases found_cases hl with hl | rfl
  · exact h.source id l hl hlt
  · exact absurd hlt (Nat.lt_irrefl _)

/-- A turn that leaves the login alone. -/
theorem turn (h : Renewed i g₀ a) (hlogin : w.shared.login i = a.world.shared.login i)
    (hclient : a.world.shared.client.generation ≤ w.shared.client.generation)
    (hsettled : w.holder i = none →
      ∀ r ∈ a.renewals i, r.replaced.generation < (a.world.shared.login i).generation)
    (hrenewal : Turn.renewal? i ⟨c, a.world⟩ = none) : Renewed i g₀ (a.turn c w) := by
  have hrenewals : (a.turn c w).renewals i = a.renewals i := by simp [hrenewal]
  constructor <;>
    simp only [Annals.world_turn, hlogin, hrenewals]
  case ref => exact h.ref
  case le_client => exact Nat.le_trans h.le_client hclient
  case start => exact h.start
  case found_le => exact fun id l hl => h.found_le_turn hl
  case sorted => exact h.sorted
  case bounds =>
    intro r hr
    obtain ⟨hstart, hle, hlt⟩ := h.bounds r hr
    exact ⟨hstart, hle, Nat.lt_of_lt_of_le hlt hclient⟩
  case own => exact fun r hr => h.own_turn hr
  case settled => exact hsettled
  case source => exact fun id l hl hlt => h.source_turn hl hlt

/-- A turn in which the login is renewed, for the first time since the last new login. -/
theorem turn_renewal {r : Renewal} {l : Login} (h : Renewed i g₀ a)
    (hw : w.shared = a.world.shared) (hheld : w.holder i ≠ none)
    (hr : Turn.renewal? i ⟨c, a.world⟩ = some r)
    (hreplaced : r.replaced = a.world.shared.login i) (hfound : a.found i r.id = some l)
    (hsame : l.generation = (a.world.shared.login i).generation)
    (hbehind : (a.world.shared.login i).generation < a.world.shared.client.generation)
    (hsettled : ∀ r ∈ a.renewals i,
      r.replaced.generation < (a.world.shared.login i).generation) :
    Renewed i g₀ (a.turn c w) := by
  have hrenewals : (a.turn c w).renewals i = r :: a.renewals i := by simp [hr]
  constructor <;>
    simp only [Annals.world_turn, hw, hrenewals, List.pairwise_cons, List.mem_cons,
      forall_eq_or_imp, exists_eq_or_imp, hreplaced]
  case ref => exact h.ref
  case le_client => exact h.le_client
  case start => exact h.start
  case found_le => exact fun id l hl => h.found_le_turn hl
  case sorted => exact ⟨hsettled, h.sorted⟩
  case bounds => exact ⟨⟨h.start, Nat.le_refl _, hbehind⟩, h.bounds⟩
  case own => exact ⟨⟨l, by simp [hfound], hsame⟩, fun r hr => h.own_turn hr⟩
  case settled => exact fun hfree => absurd hfree hheld
  case source => exact fun id l hl hlt => .inr (h.source_turn hl hlt)

/-- A turn in which the login is replaced by what it has been renewed to. -/
theorem turn_store {r : Renewal} (h : Renewed i g₀ a)
    (hrenewal : Turn.renewal? i ⟨c, a.world⟩ = none) (hr : r ∈ a.renewals i)
    (hreplaced : r.replaced.generation = (a.world.shared.login i).generation)
    (href : (w.shared.login i).ref = some r.ref)
    (hnewer : (a.world.shared.login i).generation < (w.shared.login i).generation)
    (hclient : (w.shared.login i).generation ≤ w.shared.client.generation)
    (hmono : a.world.shared.client.generation ≤ w.shared.client.generation) :
    Renewed i g₀ (a.turn c w) := by
  have hrenewals : (a.turn c w).renewals i = a.renewals i := by simp [hrenewal]
  constructor <;> simp only [Annals.world_turn, hrenewals]
  case ref => simp [href]
  case le_client => exact hclient
  case start => exact Nat.le_of_lt (Nat.lt_of_le_of_lt h.start hnewer)
  case found_le =>
    exact fun id l hl => Nat.le_of_lt (Nat.lt_of_le_of_lt (h.found_le_turn hl) hnewer)
  case sorted => exact h.sorted
  case bounds =>
    intro r hr
    obtain ⟨hstart, hle, hlt⟩ := h.bounds r hr
    exact ⟨hstart, Nat.le_of_lt (Nat.lt_of_le_of_lt hle hnewer), Nat.lt_of_lt_of_le hlt hmono⟩
  case own => exact fun r hr => h.own_turn hr
  case settled => exact fun _ r hr => Nat.lt_of_le_of_lt (h.bounds r hr).2.1 hnewer
  case source => exact fun id l hl _ => ⟨r, hr, href, hreplaced ▸ h.found_le_turn hl⟩

end Renewed

/-! ## What programs rely on -/

/-- What neither the turns of others nor turns that spare the login do to the program `id`: they
neither take nor give its right to log in again, leave the login alone while it has that right, and
move the active endpoint only ahead. -/
structure Onward (i id : Nat) (a b : Annals) : Prop where
  holder : a.world.holder i = some id ↔ b.world.holder i = some id
  hasHad : a.world.holder i ≠ some id → b.HasHad i id → a.HasHad i id
  found : ∀ l, a.found i id = some l → b.found i id = some l
  frozen : a.world.holder i = some id →
    b.world.shared.login i = a.world.shared.login i ∧ b.renewals i = a.renewals i
  client : a.world.shared.client.generation ≤ b.world.shared.client.generation
  renewals : ∀ r ∈ a.renewals i, r ∈ b.renewals i

/-- What the program `id` relies on between its turns. -/
structure Undisturbed (i g₀ id : Nat) (a b : Annals) : Prop extends Onward i id a b where
  renewed : Renewed i g₀ b
  unfound : a.found i id = none → b.found i id = none

/-- What the program `id` guarantees of its turns. It changes the login only with the right to log
in again, and what it sends after it has given that right back, it sends with the reference of a
later login than the one it has found. -/
structure Renewing (i g₀ id : Nat) (a b : Annals) : Prop where
  renewed : Renewed i g₀ b
  turn : ∃ c w, c.id = id ∧ b = a.turn c w
  holder : ∀ j, j ≠ id → (a.world.holder i = some j ↔ b.world.holder i = some j)
  login : a.world.holder i ≠ some id → b.world.shared.login i = a.world.shared.login i
  client : a.world.shared.client.generation ≤ b.world.shared.client.generation
  sent : ∀ call, b.world.history = .sent id call :: a.world.history → a.HasHad i id →
    a.world.holder i ≠ some id →
    ∃ ref, call.params.head? = some (.string ref) ∧ a.Supplies i id ref

/-- The pact of the program `id`. -/
def renewing (i g₀ id : Nat) : Pact where
  rely := Undisturbed i g₀ id
  guarantee := Renewing i g₀ id

section Pact

variable {i g₀ id : Nat} {a b c : Annals}

theorem Onward.refl : Onward i id a a where
  holder := Iff.rfl
  hasHad _ h := h
  found _ h := h
  frozen _ := ⟨rfl, rfl⟩
  client := Nat.le_refl _
  renewals _ h := h

theorem Onward.trans (h : Onward i id a b) (h' : Onward i id b c) : Onward i id a c where
  holder := h.holder.trans h'.holder
  hasHad hout hhad := h.hasHad hout (h'.hasHad (fun hb => hout (h.holder.2 hb)) hhad)
  found l hl := h'.found l (h.found l hl)
  frozen hheld :=
    have hb := h'.frozen (h.holder.1 hheld)
    have ha := h.frozen hheld
    ⟨hb.1.trans ha.1, hb.2.trans ha.2⟩
  client := Nat.le_trans h.client h'.client
  renewals r hr := h'.renewals r (h.renewals r hr)

theorem Undisturbed.refl (h : Renewed i g₀ a) : Undisturbed i g₀ id a a :=
  ⟨.refl, h, fun h => h⟩

theorem Undisturbed.trans (h : Undisturbed i g₀ id a b) (h' : Undisturbed i g₀ id b c) :
    Undisturbed i g₀ id a c :=
  ⟨h.toOnward.trans h'.toOnward, h'.renewed, fun ha => h'.unfound (h.unfound ha)⟩

/-- The turns of one program do not disturb the others. -/
theorem Renewing.undisturbed {other : Nat} (h : Renewing i g₀ id a b) (hother : other ≠ id) :
    Undisturbed i g₀ other a b := by
  obtain ⟨c, w, rfl, rfl⟩ := h.turn
  have hsingle : a.world.holder i = some other → a.world.holder i ≠ some c.id :=
    fun hheld heq => hother (Option.some.inj (hheld.symm.trans heq))
  constructor
  case toOnward =>
    constructor
    case holder => exact h.holder other hother
    case hasHad => exact fun hout hhad => (Annals.hasHad_turn.1 hhad).resolve_left hout
    case found => exact fun l hl => by simp [hl]
    case frozen =>
      intro hheld
      exact ⟨h.login (hsingle hheld), by simp [Turn.renewal?_of_ne (hsingle hheld)]⟩
    case client => exact h.client
    case renewals => exact fun r hr => by simp [hr]
  case renewed => exact h.renewed
  case unfound => exact fun hnone => by simp [hnone, hother.symm]

theorem harmony_renewing (i g₀ : Nat) : Harmony (Renewed i g₀) (renewing i g₀) where
  refl _ _ h := .refl h
  trans _ _ _ _ h h' := h.trans h'
  keeps _ _ _ h := h.renewed
  turn _ _ hother _ _ h := h.undisturbed hother

end Pact

/-! ## Turns that leave the login alone -/

/-- The login and the right to log in again on it are left alone, and the active endpoint moves
only ahead. -/
structure World.Spares (i : Nat) (w w' : World) : Prop where
  login : w'.shared.login i = w.shared.login i
  holder : w'.holder i = w.holder i
  client : w.shared.client.generation ≤ w'.shared.client.generation

theorem World.Spares.refl {i : Nat} {w : World} : w.Spares i w :=
  ⟨rfl, rfl, Nat.le_refl _⟩

theorem World.Spares.record {i : Nat} {w : World} (e : Event) : w.Spares i (w.record e) :=
  ⟨rfl, rfl, Nat.le_refl _⟩

section Spares

variable {i g₀ : Nat} {a b : Annals} {c : Choice} {w : World}

theorem Onward.of_spares (hspares : a.world.Spares i w)
    (hrenewal : Turn.renewal? i ⟨c, a.world⟩ = none) : Onward i c.id a (a.turn c w) where
  holder := by simp [hspares.holder]
  hasHad hout hhad := (Annals.hasHad_turn.1 hhad).resolve_left hout
  found l hl := by simp [hl]
  frozen _ := ⟨hspares.login, by simp [hrenewal]⟩
  client := hspares.client
  renewals r hr := by simp [hr]

theorem Renewing.of_spares (h : Renewed i g₀ a) (hspares : a.world.Spares i w)
    (hrenewal : Turn.renewal? i ⟨c, a.world⟩ = none)
    (hsent : ∀ call, w.history = .sent c.id call :: a.world.history → a.HasHad i c.id →
      a.world.holder i ≠ some c.id →
      ∃ ref, call.params.head? = some (.string ref) ∧ a.Supplies i c.id ref) :
    Renewing i g₀ c.id a (a.turn c w) where
  renewed := h.turn hspares.login hspares.client (fun hfree => h.settled (hspares.holder ▸ hfree))
    hrenewal
  turn := ⟨c, w, rfl, rfl⟩
  holder j _ := by simp [hspares.holder]
  login _ := hspares.login
  client := hspares.client
  sent := hsent

/-- The program `id` has never had the right to log in again. -/
structure Annals.Outside (i id : Nat) (a : Annals) : Prop where
  holder : a.world.holder i ≠ some id
  never : ¬ a.HasHad i id

theorem Annals.Outside.onward {id : Nat} (h : a.Outside i id) (hab : Onward i id a b) :
    b.Outside i id where
  holder := fun hb => h.holder (hab.holder.2 hb)
  never := fun hb => h.never (hab.hasHad h.holder hb)

/-- Whatever spares the login is allowed, and is no reason to be anywhere else. -/
theorem Annals.Outside.allows {rest : Annals → Prop} (h : a.Outside i c.id)
    (hab : Undisturbed i g₀ c.id a b) (hspares : b.world.Spares i w)
    (hrest : (b.turn c w).Outside i c.id → rest (b.turn c w)) :
    (renewing i g₀ c.id).Allows b c w rest := by
  have hb := h.onward hab.toOnward
  have hrenewal : Turn.renewal? i ⟨c, b.world⟩ = none := Turn.renewal?_of_ne hb.holder
  refine ⟨.of_spares hab.renewed hspares hrenewal ?_,
    hrest (hb.onward (.of_spares hspares hrenewal))⟩
  exact fun _ _ hhad => absurd hhad hb.never

end Spares

/-! ## Programs that leave the login alone -/

/-- Programs that spare the login keep the pact. -/
theorem Annals.Outside.minds {α : Type} {i g₀ id : Nat} {a : Annals} {t : Thread α}
    (h : a.Outside i id) (ht : t.Within (.sparing i)) : t.Minds (renewing i g₀ id) id a := by
  refine Thread.minds_of_within (fun a b c w ha hab hc hchanges => ?_) ht h
  subst hc
  have hspares : b.world.Spares i w :=
    ⟨hchanges.shared.1, hchanges.holder i fun h => h rfl, hchanges.shared.2⟩
  exact ha.allows hab hspares fun hb => hb

end PoolClient
