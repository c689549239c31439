import PoolClient.Proofs.Blanks
import PoolClient.Proofs.Outcomes
import PoolClient.Proofs.RoundTrip
import PoolClient.Proofs.ValueGrammar
/-!
# Documents written again

A value, a call or a response that was read from a document is written as another document, which
is read as the same value, call or response (`parse_encode_of_parse`). Values that were read are
`Settled`: the reader sorts the members of structures and takes the blanks off the texts of
dates, and nothing else of the layout of a document is left in them. Of doubles it is asked that
their printed forms read back, but for not-a-number, which does (`readsBack_of_isNaN`).
-/

namespace PoolClient

open Markup Number Text

/-! ## Not-a-number -/

section

open Float.Model

/-- Not-a-number has the largest exponent, and a mantissa. -/
theorem exponent_mantissa_of_isNaN {format : Format} {b : BitVec format.numBits}
    (h : (UnpackedFloat.unpack format b).isNaN = true) :
    UnpackedFloat.unpackExponent b = -1#_ ∧ UnpackedFloat.unpackMantissa b ≠ 0#_ := by
  unfold UnpackedFloat.unpack at h
  dsimp only at h
  by_cases hexponent : UnpackedFloat.unpackExponent b = -1#_
  · refine ⟨hexponent, fun hmantissa => ?_⟩
    rw [if_pos hexponent, if_pos hmantissa] at h
    cases h
  · rw [if_neg hexponent] at h
    by_cases hzero : UnpackedFloat.unpackExponent b = 0#_
    · rw [if_pos hzero] at h
      by_cases hmantissa : UnpackedFloat.unpackMantissa b = 0#_
      · rw [dif_pos hmantissa] at h
        cases h
      · rw [dif_neg hmantissa] at h
        cases h
    · rw [if_neg hzero] at h
      cases h

/-- There is one not-a-number. -/
theorem eq_of_isNaN {x : Float} (h : x.isNaN = true) : x = Float.ofBits 0x7ff8000000000000 := by
  obtain ⟨⟨bits, hvalid⟩⟩ := x
  have hunpack : (UnpackedFloat.unpack Format.binary64 bits.toBitVec).isNaN = true := h
  obtain ⟨hexponent, hmantissa⟩ := exponent_mantissa_of_isNaN hunpack
  have hcanonical : bits = (Float.ofBits 0x7ff8000000000000).toBits := by
    rw [← UInt64.toBitVec_inj, hvalid.eq_packedNaN hexponent hmantissa]
    decide +kernel
  subst hcanonical
  rfl

end

/-- Not-a-number reads back. -/
theorem readsBack_of_isNaN {x : Float} (h : x.isNaN = true) : ReadsBack x := by
  rw [eq_of_isNaN h]
  decide +kernel

/-- Every double in the value reads back, if it is a number. -/
def Value.NumbersReadBack (v : Value) : Prop :=
  ∀ x ∈ v.doubles, x.isNaN = false → ReadsBack x

/-! ## Values that were read -/

namespace Value

/-- Structures list their members in order, and the texts of dates have no blanks around them. -/
structure Settled (v : Value) : Prop where
  canonical : v.Canonical
  norm_eq : v.norm = v

theorem Settled.dateTime (s : String) : (Value.dateTime (trimmed s)).Settled :=
  ⟨trivial, congrArg Value.dateTime (trimmed_trimmed s)⟩

theorem Settled.array {items : List Value} (h : ∀ v ∈ items, v.Settled) :
    (array items).Settled := by
  have hnorm : normItems items = items := by
    induction items with
    | nil => rfl
    | cons v rest ih =>
      obtain ⟨hv, hrest⟩ := List.forall_mem_cons.1 h
      rw [normItems, hv.norm_eq, ih hrest]
  exact ⟨canonicalItems_iff.2 fun v hv => (h v hv).canonical, congrArg Value.array hnorm⟩

/-- The reader sorts the members that it finds. -/
theorem Settled.ofMembers {members : List (String × Value)} (h : ∀ m ∈ members, m.2.Settled) :
    (ofMembers members).Settled := by
  have hsorted : ∀ m ∈ sortMembers members, m.2.Settled :=
    fun m hm => h m (mem_of_mem_sortMembers hm)
  have hnorm : ∀ {ms : List (String × Value)}, (∀ m ∈ ms, m.2.Settled) → normMembers ms = ms := by
    intro ms hms
    induction ms with
    | nil => rfl
    | cons m rest ih =>
      obtain ⟨hm, hrest⟩ := List.forall_mem_cons.1 hms
      rw [normMembers, hm.norm_eq, ih hrest]
  have hcanonical : CanonicalMembers (sortMembers members) :=
    canonicalMembers_iff.2 fun m hm => (hsorted m hm).canonical
  exact ⟨⟨pairwise_sortMembers members, hcanonical⟩, congrArg Value.struct (hnorm hsorted)⟩

theorem Settled.readable {v : Value} (h : v.Settled) (hv : v.NumbersReadBack) : v.Readable := by
  refine ⟨h.canonical, fun x hx => ?_⟩
  cases hnan : x.isNaN with
  | true => exact readsBack_of_isNaN hnan
  | false => exact hv x hx hnan

end Value

/-! ### Scalars -/

theorem settled_of_scalarContent {name text : String} {v : Value}
    (h : ScalarContent name text v) : v.Settled := by
  obtain h | ⟨rfl, rfl⟩ := h
  · cases h with
    | dateTime => exact .dateTime text
    | _ => exact ⟨trivial, rfl⟩
  · exact ⟨trivial, rfl⟩

/-! ### Elements -/

mutual

theorem settled_of_denotes {e : Element} {v : Value} : Denotes ScalarContent e v → v.Settled
  | .untyped .. => ⟨trivial, rfl⟩
  | .scalar _ _ hcontent => settled_of_scalarContent hcontent
  | .array _ _ _ _ hitems => .array (settled_of_denoteItems hitems)
  | .struct _ _ _ hfound hmembers => by
    have hsettled := Value.Settled.ofMembers (settled_of_denoteMembers hfound)
    rwa [Value.ofMembers, lastOfEach_iff.1 hmembers] at hsettled

theorem settled_of_denoteItems {es : List Element} {items : List Value} :
    DenoteItems ScalarContent es items → ∀ v ∈ items, v.Settled
  | .nil => List.forall_mem_nil _
  | .cons hv hrest =>
    List.forall_mem_cons.2 ⟨settled_of_denotes hv, settled_of_denoteItems hrest⟩

theorem settled_of_denoteMembers {es : List Element} {found : List (String × Value)} :
    DenoteMembers ScalarContent es found → ∀ m ∈ found, m.2.Settled
  | .nil => List.forall_mem_nil _
  | .cons _ _ _ hv hrest =>
    List.forall_mem_cons.2 ⟨settled_of_denotes hv, settled_of_denoteMembers hrest⟩

end

/-- A value that was read is settled. -/
theorem settled_of_interpret {e : Element} {v : Value} (h : interpret e = .ok v) : v.Settled :=
  settled_of_denotes (denotes_of_interpret h)

/-! ## Messages -/

theorem settled_of_parseValue {text : String} {v : Value} (h : parseValue text = .ok v) :
    v.Settled := by
  unfold parseValue at h
  split at h
  · cases h
    exact ⟨trivial, rfl⟩
  · obtain ⟨root, -, h⟩ := bind_eq_ok h
    exact settled_of_interpret h

theorem settled_of_interpretParams {es : List Element} {params : List Value}
    (h : interpretParams es = .ok params) : ∀ v ∈ params, v.Settled := by
  induction es generalizing params with
  | nil =>
    cases h
    exact List.forall_mem_nil _
  | cons e rest ih =>
    rw [interpretParams] at h
    split at h
    · cases h
    obtain ⟨value, -, h⟩ := bind_eq_ok h
    obtain ⟨v, hv, h⟩ := bind_eq_ok h
    obtain ⟨vs, hvs, h⟩ := bind_eq_ok h
    cases h
    exact List.forall_mem_cons.2 ⟨settled_of_interpret hv, ih hvs⟩

/-- The name of the method has no blanks around it either. -/
theorem settled_of_parseCall {text : String} {c : MethodCall} (h : parseCall text = .ok c) :
    trimmed c.method = c.method ∧ ∀ v ∈ c.params, v.Settled := by
  obtain ⟨root, -, h⟩ := bind_eq_ok h
  simp only [MethodCall.ofElement] at h
  split at h
  · cases h
  obtain ⟨name, -, h⟩ := bind_eq_ok h
  split at h
  · obtain ⟨params, hparams, h⟩ := bind_eq_ok h
    cases h
    exact ⟨trimmed_trimmed _, settled_of_interpretParams hparams⟩
  · cases h
    exact ⟨trimmed_trimmed _, List.forall_mem_nil _⟩

theorem settled_of_parseResponse {text : String} {r : Response} (h : parseResponse text = .ok r) :
    r.payload.Settled := by
  obtain ⟨root, -, h⟩ := bind_eq_ok h
  simp only [Response.ofElement] at h
  split at h
  · cases h
  split at h
  · cases h
  · split at h
    · obtain ⟨param, -, h⟩ := bind_eq_ok h
      obtain ⟨value, -, h⟩ := bind_eq_ok h
      obtain ⟨v, hv, h⟩ := bind_eq_ok h
      cases h
      exact settled_of_interpret hv
    · split at h
      · obtain ⟨value, -, h⟩ := bind_eq_ok h
        obtain ⟨v, hv, h⟩ := bind_eq_ok h
        cases h
        exact settled_of_interpret hv
      · cases h

/-! ## Documents -/

/-- Whatever document a value, a call or a response was read from, it is read again from the
document that it is written as. -/
theorem parse_encode_of_parse :
    (∀ {text : String} {v : Value}, parseValue text = .ok v → v.NumbersReadBack →
      parseValue (encodeValue v) = .ok v) ∧
    (∀ {text : String} {c : MethodCall}, parseCall text = .ok c →
      (∀ v ∈ c.params, v.NumbersReadBack) → parseCall (encodeCall c.method c.params) = .ok c) ∧
    ∀ {text : String} {r : Response}, parseResponse text = .ok r → r.payload.NumbersReadBack →
      parseResponse (encodeResponse r) = .ok r := by
  refine ⟨fun {text v} h hv => ?_, fun {text c} h hc => ?_, fun {text r} h hr => ?_⟩
  · have hsettled := settled_of_parseValue h
    rw [parseValue_encodeValue (hsettled.readable hv), hsettled.norm_eq]
  · obtain ⟨hmethod, hsettled⟩ := settled_of_parseCall h
    have hnorm : c.params.map Value.norm = c.params :=
      (List.map_congr_left fun v hv => (hsettled v hv).norm_eq).trans (List.map_id _)
    have hreadable : ∀ v ∈ c.params, v.Readable := fun v hv => (hsettled v hv).readable (hc v hv)
    rw [parseCall_encodeCall c.method hreadable, hmethod, hnorm]
  · have hsettled := settled_of_parseResponse h
    have hnorm : r.norm = r := by
      cases r with
      | success v => exact congrArg Response.success hsettled.norm_eq
      | fault v => exact congrArg Response.fault hsettled.norm_eq
    rw [parseResponse_encodeResponse (hsettled.readable hr), hnorm]

/-- Members out of order, with an entity and with blanks around a date, then blanks around the name
of a method and infinity in full, and last a negative not-a-number. -/
theorem parse_encode_of_parse_layout :
    let v : Value := .struct [("a", .string "<"), ("b", .dateTime "now")]
    let infinity := Float.ofBits 0x7ff0000000000000
    let c : MethodCall := ⟨"VM.set", [.double infinity]⟩
    let r : Response := .fault (.double (Float.ofBits 0x7ff8000000000000))
    (parseValue ("<value><struct><member><name>b</name><value><dateTime.iso8601> now\n" ++
          "</dateTime.iso8601></value></member><member><name>a</name><value>&lt;</value>" ++
          "</member></struct></value>") = .ok v ∧
        parseValue (encodeValue v) = .ok v) ∧
      (parseCall ("<methodCall><methodName> VM.set </methodName><params><param><value>" ++
          "<double>infinity</double></value></param></params></methodCall>") = .ok c ∧
        parseCall (encodeCall c.method c.params) = .ok c) ∧
      parseResponse ("<methodResponse><fault><value><double>-NaN</double></value></fault>" ++
          "</methodResponse>") = .ok r ∧
        parseResponse (encodeResponse r) = .ok r := by
  intro v infinity c r
  obtain ⟨hvalue, hcall, hresponse⟩ := parse_encode_of_parse
  refine ⟨⟨?value, hvalue ?value nofun⟩, ⟨?call, hcall ?call ?number⟩, ?response,
    hresponse ?response ?nan⟩
  -- Each text is put together from its elements, which say what it is read as.
  case value =>
    have hname (name : String) : Writing _ (tagged "name" (escape name.toList)) :=
      .single (by decide) (writing_textNodes name)
    have hdate : Writing _ (tagged "dateTime.iso8601" " now\n".toList) :=
      .single (by decide) (writing_textNodes " now\n")
    have hdated : Writing _ (tagged "value" _) := .single (by decide) hdate
    have huntyped : Writing _ (tagged "value" "&lt;".toList) :=
      .single (by decide) (writing_textNodes "<")
    have hfirst : Writing _ (tagged "member" _) :=
      .single (by decide) ((hname "b").append hdated rfl)
    have hsecond : Writing _ (tagged "member" _) :=
      .single (by decide) ((hname "a").append huntyped rfl)
    have hstruct : Writing _ (tagged "struct" _) :=
      .single (by decide) (hfirst.append hsecond rfl)
    have hread := parseValue_tagged hstruct.readUpToTag
    refine (congrArg parseValue (by decide +kernel)).trans (hread.trans (interpret_of_denotes ?_))
    exact .struct rfl rfl rfl (.cons rfl rfl rfl (.scalar rfl rfl (.inl (.dateTime _)))
      (.cons rfl rfl rfl (.untyped rfl rfl) .nil)) (lastOfEach_iff.2 rfl)
  case call =>
    have hname : Writing _ (tagged "methodName" " VM.set ".toList) :=
      .single (by decide) (writing_textNodes " VM.set ")
    have hdouble : Writing _ (tagged "double" "infinity".toList) :=
      .single (by decide) (writing_textNodes "infinity")
    have hinner : Writing _ (tagged "value" _) := .single (by decide) hdouble
    have hparam : Writing _ (tagged "param" _) := .single (by decide) hinner
    have hparams : Writing _ (tagged "params" _) := .single (by decide) hparam
    have hroot : rootElement (String.ofList (tagged "methodCall" _)) = _ :=
      rootElement_tagged (by decide) (hname.append hparams rfl).readUpToTag
    have hread : interpret ⟨"value", [.element "double" [.text "infinity"]]⟩ =
        .ok (.double infinity) :=
      interpret_of_denotes (.scalar rfl rfl (.inl (.double (by decide +kernel))))
    have hinfinity : interpretParams [⟨"param",
        [.element "value" [.element "double" [.text "infinity"]]]⟩] = .ok c.params :=
      congrArg (Except.map fun v => [v]) hread
    refine (congrArg parseCall (by decide +kernel)).trans
      ((congrArg (Except.bind · MethodCall.ofElement) hroot).trans ?_)
    exact congrArg (Except.map (MethodCall.mk "VM.set")) hinfinity
  case response =>
    have hdouble : Writing _ (tagged "double" "-NaN".toList) :=
      .single (by decide) (writing_textNodes "-NaN")
    have hinner : Writing _ (tagged "value" _) := .single (by decide) hdouble
    have hfault : Writing _ (tagged "fault" _) := .single (by decide) hinner
    have hroot : rootElement (String.ofList (tagged "methodResponse" _)) = _ :=
      rootElement_tagged (by decide) hfault.readUpToTag
    have hread : interpret ⟨"value", [.element "double" [.text "-NaN"]]⟩ = .ok r.payload :=
      interpret_of_denotes (.scalar rfl rfl (.inl (.double (by decide +kernel))))
    refine (congrArg parseResponse (by decide +kernel)).trans
      ((congrArg (Except.bind · Response.ofElement) hroot).trans ?_)
    exact congrArg (Except.map Response.fault) hread
  case number =>
    have hnumber : ReadsBack infinity := by decide +kernel
    simp [c, Value.NumbersReadBack, Value.doubles, hnumber]
  case nan =>
    intro x hx hnan
    cases List.mem_singleton.1 hx
    exact absurd hnan (by decide +kernel)

end PoolClient
