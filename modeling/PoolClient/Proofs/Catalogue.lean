import PoolClient.Api.Catalogue
import PoolClient.Proofs.Decoding
/-!
# The types of the interface

`Supported` are the types that the interface names and all that are made of them. None of its
enumerations and records lists a name twice (`wellFormed_of_named`), and none of its labels is
empty (`labels_of_named`). So the values of a supported type read back as they were written
(`encode_decode`).
-/

namespace PoolClient.Schema

/-! ## Well-formed types -/

namespace WireType

mutual

/-- Whether a type is well formed can be computed. -/
def decideWellFormed : (t : WireType) → Decidable t.WellFormed
  | .text => .isTrue trivial
  | .integer => .isTrue trivial
  | .real => .isTrue trivial
  | .flag => .isTrue trivial
  | .instant => .isTrue trivial
  | .nothing => .isTrue trivial
  | .wire => .isTrue trivial
  | .reference _ => .isTrue trivial
  | .label labels => inferInstanceAs (Decidable labels.Nodup)
  | .list item => item.decideWellFormed
  | .set item => item.decideWellFormed
  | .map (.label labels) value =>
    @instDecidableAnd labels.Nodup value.WellFormed inferInstance value.decideWellFormed
  | .map .text value => value.decideWellFormed
  | .map .integer value => value.decideWellFormed
  | .map (.reference _) value => value.decideWellFormed
  | .record _ fields =>
    @instDecidableAnd (fields.map Prod.fst).Nodup (WellFormedFields fields) inferInstance
      (decideWellFormedFields fields)

def decideWellFormedFields :
    (fields : List (String × WireType)) → Decidable (WellFormedFields fields)
  | [] => .isTrue trivial
  | (_, t) :: rest =>
    @instDecidableAnd t.WellFormed (WellFormedFields rest) t.decideWellFormed
      (decideWellFormedFields rest)

end

instance : DecidablePred WellFormed :=
  decideWellFormed

end WireType

theorem mem_of_lookup {α : Type} {name : String} {a : α} {entries : List (String × α)}
    (h : entries.lookup name = some a) : (name, a) ∈ entries := by
  obtain ⟨before, rest, rfl, -⟩ := List.lookup_eq_some_iff.1 h
  exact List.mem_append_right _ List.mem_cons_self

/-- What holds of all references, enumerations and records of the interface, and of its batch of
events, holds of the types that it names. -/
theorem of_named {P : WireType → Prop} (hreferences : ∀ className, P (.reference className))
    (henumerations : ∀ e ∈ Api.enumerations, P (.label e.2)) (hrecords : ∀ e ∈ Api.records, P e.2)
    (hbatch : P Api.Record.eventBatch) {name : String} {t : WireType}
    (h : Api.namedType? name = some t) : P t := by
  unfold Api.namedType? at h
  split at h
  · cases h
    exact hreferences _
  · split at h
    · rename_i hlookup
      cases h
      exact henumerations _ (mem_of_lookup hlookup)
    · split at h
      · cases h
        exact hbatch
      · exact hrecords _ (mem_of_lookup h)

theorem wellFormed_records : ∀ e ∈ Api.records, e.2.WellFormed := by
  decide +kernel

theorem wellFormed_eventBatch : Api.Record.eventBatch.WellFormed := by
  decide +kernel

/-- The types that the interface names are well formed. -/
theorem wellFormed_of_named {name : String} {t : WireType} (h : Api.namedType? name = some t) :
    t.WellFormed :=
  of_named (fun _ => trivial) (by decide +kernel) wellFormed_records wellFormed_eventBatch h

/-- The enumerations of the interface have no empty label. -/
theorem labels_of_named {name : String} {t : WireType} (h : Api.namedType? name = some t) :
    ∀ labels ∈ t.labelLists, "" ∉ labels := by
  refine of_named (P := fun t => ∀ labels ∈ t.labelLists, "" ∉ labels)
    (fun _ => List.forall_mem_nil _) ?_ ?_ ?_ h
  · decide +kernel
  · decide +kernel
  · decide +kernel

/-! ## Supported types -/

/-- The types whose values have an order, so that there are sets of them. -/
inductive Ordered : WireType → Prop where
  | text : Ordered .text
  | integer : Ordered .integer
  | flag : Ordered .flag
  | instant : Ordered .instant
  | nothing : Ordered .nothing
  | reference (className : String) : Ordered (.reference className)
  | label (labels : List String) : Ordered (.label labels)
  | list {item : WireType} (h : Ordered item) : Ordered (.list item)
  | set {item : WireType} (h : Ordered item) : Ordered (.set item)
  | map {key : KeyType} {value : WireType} (h : Ordered value) : Ordered (.map key value)

/-- The scalar types, the references, enumerations and records of the interface and its batch of
events, and the sequences, sets and mappings made of supported types. -/
inductive Supported : WireType → Prop where
  | text : Supported .text
  | integer : Supported .integer
  | real : Supported .real
  | flag : Supported .flag
  | instant : Supported .instant
  | nothing : Supported .nothing
  | wire : Supported .wire
  | named {name : String} {t : WireType} (h : Api.namedType? name = some t) : Supported t
  | list {item : WireType} (h : Supported item) : Supported (.list item)
  | set {item : WireType} (h : Supported item) (hord : Ordered item) : Supported (.set item)
  | map {key : KeyType} {value : WireType} (hkey : Supported key.toWireType)
      (hvalue : Supported value) : Supported (.map key value)

theorem Supported.wellFormed {t : WireType} (h : Supported t) : t.WellFormed := by
  induction h with
  | named h => exact wellFormed_of_named h
  | list h ih => exact ih
  | set h hord ih => exact ih
  | map hkey hvalue ihkey ihvalue => exact wellFormed_map.2 ⟨ihkey, ihvalue⟩
  | _ => trivial

theorem Supported.hasZero {t : WireType} (h : Supported t) : t.HasZero := by
  refine ⟨h.wellFormed, ?_⟩
  induction h with
  | named h => exact labels_of_named h
  | list h ih => exact ih
  | set h hord ih => exact ih
  | map hkey hvalue ihkey ihvalue => exact ihvalue
  | _ => exact List.forall_mem_nil _

/-- A value of a supported type whose doubles are finite and whose dates are whole seconds of the
years 1 to 9999 can be written, and reads back as it was, under any labels. -/
theorem encode_decode {t : WireType} (ht : Supported t) {d : Datum} (h : HasType t d)
    (hd : d.InRange) (label label' : String) :
    ∃ v, d.encode label = .ok v ∧ t.decode label' v = .ok d := by
  obtain ⟨hencode, hdecode⟩ := h.roundTrips ht.wellFormed hd
  exact ⟨d.toWire, hencode label, hdecode label'⟩

/-- A mapping whose keys are in another order as names of members, with sets of known and unknown
labels. -/
theorem encode_decode_map :
    let t : WireType := .map .integer (.set (.label Api.Enumeration.networkPurpose))
    let d : Datum := .map [(.integer 9, .set [.label ⟨some 0, "nbd"⟩, .label ⟨none, "new"⟩]),
      (.integer 10, .set [])]
    ∃ v, d.encode "a" = .ok v ∧ t.decode "b" v = .ok d := by
  intro t d
  have hnamed : Api.namedType? "NetworkPurpose" = some (.label Api.Enumeration.networkPurpose) :=
    rfl
  have hnbd : HasType (.label Api.Enumeration.networkPurpose) (.label ⟨some 0, "nbd"⟩) :=
    .label (.inl ⟨0, rfl, rfl⟩)
  have hnew : HasType (.label Api.Enumeration.networkPurpose) (.label ⟨none, "new"⟩) :=
    .label (.inr ⟨rfl, by decide⟩)
  have htype : HasType t d := by
    refine .map ?_ ?_ ?_
    · simp only [List.forall_mem_cons, List.not_mem_nil, false_implies, implies_true, and_true]
      exact ⟨.integer 9, .integer 10⟩
    · simp only [List.forall_mem_cons, List.not_mem_nil, false_implies, implies_true, and_true]
      refine ⟨.set ?_ (List.pairwise_pair.2 rfl), .set (fun d hd => nomatch hd) .nil⟩
      simp only [List.forall_mem_cons, List.not_mem_nil, false_implies, implies_true, and_true]
      exact ⟨hnbd, hnew⟩
    · exact List.pairwise_pair.2 rfl
  have hkey : Supported KeyType.integer.toWireType := .integer
  exact encode_decode (.map hkey (.set (.named hnamed) (.label _))) htype
    ⟨⟨trivial, trivial, trivial⟩, trivial, trivial⟩ "a" "b"

end PoolClient.Schema
