import PoolClient.Schema.Encode
/-!
# What can be written

Only a double that is not finite keeps a datum from being written. `Datum.leaves` lists the parts
of a datum that have no parts of their own, in the order in which they are written. If all doubles
among them are finite, the datum is written as one value, whatever the label
(`Datum.writes_of_finite`); if not, the first that is not finite is the error, under a label that
extends the given one (`Datum.encode_of_unwritable`).
-/

namespace PoolClient.Schema

/-! ## Labels of parts -/

/-- The label `l` begins with the label `label`. -/
def Extends (label l : String) : Prop :=
  ∃ rest, l = label ++ rest

theorem Extends.refl (label : String) : Extends label label :=
  ⟨"", (String.append_empty).symm⟩

theorem Extends.trans {label l l' : String} (h : Extends label l) (h' : Extends l l') :
    Extends label l' := by
  obtain ⟨rest, rfl⟩ := h
  obtain ⟨rest', rfl⟩ := h'
  exact ⟨rest ++ rest', String.append_assoc⟩

theorem extends_childLabel (label segment : String) : Extends label (childLabel label segment) := by
  unfold childLabel
  split
  · exact ⟨segment, rfl⟩
  · exact ⟨"." ++ segment, String.append_assoc⟩

theorem extends_itemLabel (label : String) (i : Nat) : Extends label (itemLabel label i) :=
  extends_childLabel label _

theorem extends_entryLabel (label name : String) : Extends label (entryLabel label name) :=
  extends_childLabel label _

theorem extends_fieldLabel (label title name : String) :
    Extends label (fieldLabel label title name) :=
  extends_childLabel label _

namespace Datum

/-! ## Data that are written -/

/-- What a datum is written as; nil if it cannot be written. -/
def toWire (d : Datum) : Value :=
  match d.encode "" with
  | .ok v => v
  | .error _ => .nil

/-- A datum is written as one value, whatever the label. -/
def Writes (d : Datum) : Prop :=
  ∀ label, d.encode label = .ok d.toWire

theorem toWire_eq {d : Datum} {v : Value} (h : ∀ label, d.encode label = .ok v) :
    d.toWire = v := by
  rw [toWire, h]

theorem Writes.intro {d : Datum} {v : Value} (h : ∀ label, d.encode label = .ok v) : d.Writes := by
  intro label
  rw [toWire_eq h, h]

section

variable {items : List Datum} {entries : List (Datum × Datum)} {title : String}
  {parts : List (String × Datum)}

/-! ### Sequences and sets -/

theorem encodeItems_of_writes (h : ∀ d ∈ items, d.Writes) (label : String) (i : Nat) :
    encodeItems label i items = .ok (items.map toWire) := by
  induction items generalizing i with
  | nil => rw [encodeItems]; rfl
  | cons d rest ih =>
    have hd := h d List.mem_cons_self (itemLabel label i)
    have hrest := ih (fun d hd => h d (List.mem_cons_of_mem _ hd)) (i + 1)
    rw [encodeItems, hd, hrest]
    rfl

theorem encode_list (h : ∀ d ∈ items, d.Writes) (label : String) :
    (list items).encode label = .ok (.array (items.map toWire)) := by
  rw [encode, encodeItems_of_writes h]
  rfl

theorem encode_set (h : ∀ d ∈ items, d.Writes) (label : String) :
    (set items).encode label = .ok (.array (items.map toWire)) := by
  rw [encode, encodeItems_of_writes h]
  rfl

/-! ### Mappings -/

/-- The member for an entry. -/
def memberOf (e : Datum × Datum) : String × Value :=
  (e.1.keyText, e.2.toWire)

theorem encodeEntries_of_writes (h : ∀ e ∈ entries, e.2.Writes) (label : String) :
    encodeEntries label entries = .ok (entries.map memberOf) := by
  induction entries with
  | nil => rw [encodeEntries]; rfl
  | cons e rest ih =>
    have he := h e List.mem_cons_self (entryLabel label e.1.keyText)
    have hrest := ih fun e he => h e (List.mem_cons_of_mem _ he)
    rw [encodeEntries, he, hrest]
    rfl

theorem encode_map (h : ∀ e ∈ entries, e.2.Writes) (label : String) :
    (map entries).encode label = .ok (.ofMembers (entries.map memberOf)) := by
  rw [encode, encodeEntries_of_writes h]
  rfl

/-! ### Records -/

/-- The member for a field. -/
def fieldMember (p : String × Datum) : String × Value :=
  (p.1, p.2.toWire)

theorem encodeFields_of_writes (h : ∀ p ∈ parts, p.2.Writes) (label : String) :
    encodeFields label title parts = .ok (parts.map fieldMember) := by
  induction parts with
  | nil => rw [encodeFields]; rfl
  | cons p rest ih =>
    have hp := h p List.mem_cons_self (fieldLabel label title p.1)
    have hrest := ih fun p hp => h p (List.mem_cons_of_mem _ hp)
    rw [encodeFields, hp, hrest]
    rfl

theorem encode_record (h : ∀ p ∈ parts, p.2.Writes) (label : String) :
    (record title parts).encode label = .ok (.ofMembers (parts.map fieldMember)) := by
  rw [encode, encodeFields_of_writes h]
  rfl

end

/-! ## Parts without parts -/

mutual

/-- The parts of a datum that have no parts of their own, in the order in which they are
written. -/
def leaves : Datum → List Datum
  | .list items => itemLeaves items
  | .set items => itemLeaves items
  | .map entries => entryLeaves entries
  | .record _ parts => fieldLeaves parts
  | d => [d]

/-- The leaves of some items. -/
def itemLeaves : List Datum → List Datum
  | [] => []
  | d :: rest => d.leaves ++ itemLeaves rest

/-- The leaves of the values of some entries. -/
def entryLeaves : List (Datum × Datum) → List Datum
  | [] => []
  | (_, d) :: rest => d.leaves ++ entryLeaves rest

/-- The leaves of some fields. -/
def fieldLeaves : List (String × Datum) → List Datum
  | [] => []
  | (_, d) :: rest => d.leaves ++ fieldLeaves rest

end

theorem mem_itemLeaves {leaf : Datum} {items : List Datum} :
    leaf ∈ itemLeaves items ↔ ∃ d ∈ items, leaf ∈ d.leaves := by
  induction items with
  | nil => simp [itemLeaves]
  | cons d rest ih => simp [itemLeaves, ih]

theorem mem_entryLeaves {leaf : Datum} {entries : List (Datum × Datum)} :
    leaf ∈ entryLeaves entries ↔ ∃ e ∈ entries, leaf ∈ e.2.leaves := by
  induction entries with
  | nil => simp [entryLeaves]
  | cons e rest ih => simp [entryLeaves, ih]

theorem mem_fieldLeaves {leaf : Datum} {parts : List (String × Datum)} :
    leaf ∈ fieldLeaves parts ↔ ∃ p ∈ parts, leaf ∈ p.2.leaves := by
  induction parts with
  | nil => simp [fieldLeaves]
  | cons p rest ih => simp [fieldLeaves, ih]

/-! ## Doubles -/

/-- A double that is not finite. -/
def notFinite? : Datum → Option Float
  | .real x => if x.isFinite then none else some x
  | _ => none

/-- The first double that is not finite. -/
def unwritable? (leaves : List Datum) : Option Float :=
  leaves.findSome? notFinite?

theorem notFinite?_eq_some_iff {d : Datum} {x : Float} :
    notFinite? d = some x ↔ d = .real x ∧ x.isFinite = false := by
  cases d with
  | real y =>
    rw [notFinite?, real.injEq]
    cases hy : y.isFinite with
    | true =>
      refine ⟨nofun, ?_⟩
      rintro ⟨rfl, hx⟩
      exact absurd (hy.symm.trans hx) (by decide)
    | false =>
      refine ⟨fun h => ?_, fun h => congrArg some h.1⟩
      obtain rfl := Option.some.inj h
      exact ⟨rfl, hy⟩
  | _ => simp [notFinite?]

theorem unwritable?_eq_none_iff {leaves : List Datum} :
    unwritable? leaves = none ↔ ∀ x, .real x ∈ leaves → x.isFinite = true := by
  rw [unwritable?, List.findSome?_eq_none_iff]
  constructor
  · intro h x hx
    cases hfinite : x.isFinite with
    | true => rfl
    | false => exact absurd (h _ hx) (by simp [notFinite?, hfinite])
  · intro h d hd
    rw [Option.eq_none_iff_forall_ne_some]
    intro x hx
    obtain ⟨rfl, hinfinite⟩ := notFinite?_eq_some_iff.1 hx
    exact absurd (h x hd) (by simp [hinfinite])

theorem exists_of_unwritable?_eq_some {leaves : List Datum} {x : Float}
    (h : unwritable? leaves = some x) : ∃ before after, leaves = before ++ .real x :: after ∧
      (∀ y, .real y ∈ before → y.isFinite = true) ∧ x.isFinite = false := by
  obtain ⟨before, d, after, rfl, hd, hbefore⟩ := List.findSome?_eq_some_iff.1 h
  obtain ⟨rfl, hx⟩ := notFinite?_eq_some_iff.1 hd
  exact ⟨before, after, rfl,
    unwritable?_eq_none_iff.1 (List.findSome?_eq_none_iff.2 hbefore), hx⟩

theorem unwritable?_append (xs ys : List Datum) :
    unwritable? (xs ++ ys) = (unwritable? xs).or (unwritable? ys) :=
  List.findSome?_append

mutual

/-- A datum whose doubles are finite is written, whatever the label. -/
theorem writes_of_finite : ∀ d : Datum, unwritable? d.leaves = none → d.Writes
  | .real x, h => by
    have hx : x.isFinite = true := by simpa [unwritable?, notFinite?, leaves] using h
    exact .intro fun _ => if_pos hx
  | .list items, h => .intro (encode_list (writes_items items h))
  | .set items, h => .intro (encode_set (writes_items items h))
  | .map entries, h => .intro (encode_map (writes_entries entries h))
  | .record _ parts, h => .intro (encode_record (writes_fields parts h))
  | .text _, _ | .integer _, _ | .flag _, _ | .instant _, _ | .nothing, _ | .wire _, _
  | .reference _, _ | .label _, _ => .intro fun _ => rfl

theorem writes_items : ∀ items : List Datum, unwritable? (itemLeaves items) = none →
    ∀ d ∈ items, d.Writes
  | [], _ => List.forall_mem_nil _
  | d :: rest, h => by
    rw [itemLeaves, unwritable?_append, Option.or_eq_none_iff] at h
    exact List.forall_mem_cons.2 ⟨writes_of_finite d h.1, writes_items rest h.2⟩

theorem writes_entries : ∀ entries : List (Datum × Datum),
    unwritable? (entryLeaves entries) = none → ∀ e ∈ entries, e.2.Writes
  | [], _ => List.forall_mem_nil _
  | (_, d) :: rest, h => by
    rw [entryLeaves, unwritable?_append, Option.or_eq_none_iff] at h
    exact List.forall_mem_cons.2 ⟨writes_of_finite d h.1, writes_entries rest h.2⟩

theorem writes_fields : ∀ parts : List (String × Datum), unwritable? (fieldLeaves parts) = none →
    ∀ p ∈ parts, p.2.Writes
  | [], _ => List.forall_mem_nil _
  | (_, d) :: rest, h => by
    rw [fieldLeaves, unwritable?_append, Option.or_eq_none_iff] at h
    exact List.forall_mem_cons.2 ⟨writes_of_finite d h.1, writes_fields rest h.2⟩

end

/-- The refusal of a double, under a label that begins with the given one. -/
def Refuses {α : Type} (label : String) (x : Float) (r : Except CodecError α) : Prop :=
  ∃ l, Extends label l ∧ r = .error ⟨l, .nonFiniteFloat x⟩

theorem Refuses.map {α β : Type} {label : String} {x : Float} {r : Except CodecError α}
    (h : Refuses label x r) (f : α → β) : Refuses label x (r.map f) := by
  obtain ⟨l, hl, rfl⟩ := h
  exact ⟨l, hl, rfl⟩

/-- What is refused under the label of a part is refused under the label of the whole. -/
theorem Refuses.of_extends {α : Type} {label l : String} {x : Float} {r : Except CodecError α}
    (h : Refuses l x r) (hl : Extends label l) : Refuses label x r := by
  obtain ⟨l', hl', rfl⟩ := h
  exact ⟨l', hl.trans hl', rfl⟩

/-- The first double that is not finite lies in the first part, or else in the rest. -/
theorem Refuses.cons {α : Type} {d : Datum} {xs : List Datum} {x : Float} {label l : String}
    {rest : Except CodecError α} {f : Value → α → α} (h : unwritable? (d.leaves ++ xs) = some x)
    (hl : Extends label l) (hd : unwritable? d.leaves = some x → Refuses l x (d.encode l))
    (hrest : unwritable? xs = some x → Refuses label x rest) :
    Refuses label x
      (match d.encode l with
      | .error e => .error e
      | .ok v => rest.map (f v)) := by
  rw [unwritable?_append] at h
  cases hfirst : unwritable? d.leaves with
  | some y =>
    rw [hfirst] at h hd
    obtain ⟨l', hl', herror⟩ := (hd h).of_extends hl
    rw [herror]
    exact ⟨l', hl', rfl⟩
  | none =>
    rw [hfirst] at h
    rw [writes_of_finite d hfirst]
    exact (hrest h).map _

mutual

/-- A datum with a double that is not finite is refused for the first such double. -/
theorem encode_of_unwritable : ∀ {d : Datum} {x : Float}, unwritable? d.leaves = some x →
    ∀ l, Refuses l x (d.encode l)
  | .real y, x, h, l => by
    obtain ⟨hx, hy⟩ : y.isFinite = false ∧ y = x := by
      simpa [unwritable?, notFinite?, leaves] using h
    subst hy
    exact ⟨l, .refl _, if_neg (by simp [hx])⟩
  | .list items, x, h, l => (encodeItems_of_unwritable h l 0).map _
  | .set items, x, h, l => (encodeItems_of_unwritable h l 0).map _
  | .map entries, x, h, l => (encodeEntries_of_unwritable h l).map _
  | .record title parts, x, h, l => (encodeFields_of_unwritable h l title).map _

theorem encodeItems_of_unwritable : ∀ {items : List Datum} {x : Float},
    unwritable? (itemLeaves items) = some x → ∀ l i, Refuses l x (encodeItems l i items)
  | d :: rest, x, h, l, i => by
    rw [encodeItems]
    exact .cons h (extends_itemLabel l i) (fun hd => encode_of_unwritable hd _)
      fun hrest => encodeItems_of_unwritable hrest l (i + 1)

theorem encodeEntries_of_unwritable : ∀ {entries : List (Datum × Datum)} {x : Float},
    unwritable? (entryLeaves entries) = some x → ∀ l, Refuses l x (encodeEntries l entries)
  | (k, d) :: rest, x, h, l => by
    rw [encodeEntries]
    exact .cons h (extends_entryLabel l _) (fun hd => encode_of_unwritable hd _)
      fun hrest => encodeEntries_of_unwritable hrest l

theorem encodeFields_of_unwritable : ∀ {parts : List (String × Datum)} {x : Float},
    unwritable? (fieldLeaves parts) = some x → ∀ l title, Refuses l x (encodeFields l title parts)
  | (name, d) :: rest, x, h, l, title => by
    rw [encodeFields]
    exact .cons h (extends_fieldLabel l title name) (fun hd => encode_of_unwritable hd _)
      fun hrest => encodeFields_of_unwritable hrest l title

end

end Datum

end PoolClient.Schema
