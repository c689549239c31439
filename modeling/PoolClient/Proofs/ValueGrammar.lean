import PoolClient.Message.Reading
import PoolClient.Proofs.Integers
import PoolClient.Proofs.Members
import PoolClient.Proofs.Outcomes
/-!
# The grammar of values

`Denotes` says which element trees denote which values, without a reader: by the one typed element
in a value element, down through arrays and structures. A value element is read as a value just
when it denotes it (`interpret_eq_ok_iff`).
-/

namespace PoolClient

open Markup Number Text

/-! ## The grammar -/

/-- What a typed element that holds text denotes, by its name and its text. -/
inductive TextContent : String → String → Value → Prop where
  | string (s : String) : TextContent "string" s (.string s)
  | int {name s : String} {m : Int64} (hname : name ∈ ["int", "i4", "i8"])
      (h : SignedNumeral (trim s.toList) m.toInt) : TextContent name s (.int m)
  | wideInt {name s : String} {n : Int} (hname : name ∈ ["int", "i4", "i8"])
      (h : SignedNumeral (trim s.toList) n) (hwide : ¬(-2 ^ 63 ≤ n ∧ n < 2 ^ 63)) :
      TextContent name s (.string (trimmed s))
  | double {s : String} {x : Float} (h : double? (trim s.toList) = some x) :
      TextContent "double" s (.double x)
  | yes {s : String} (h : trimmed s = "1" ∨ trimmed s = "true") :
      TextContent "boolean" s (.boolean true)
  | no {s : String} (h : trimmed s = "0" ∨ trimmed s = "false") :
      TextContent "boolean" s (.boolean false)
  | dateTime (s : String) : TextContent "dateTime.iso8601" s (.dateTime (trimmed s))
  | base64 {s : String} {bytes : List UInt8}
      (h : s.toList.filter (!isAsciiBlank ·) = Base64.encode bytes) :
      TextContent "base64" s (.base64 bytes)

/-- What a typed element without structure denotes: what its text does, or nil whatever its text. -/
def ScalarContent (name text : String) (v : Value) : Prop :=
  TextContent name text v ∨ name = "nil" ∧ v = .nil

/-- Members by ascending name: for each name that is found, the value found last. -/
def LastOfEach (found members : List (String × Value)) : Prop :=
  members.Pairwise (·.1 < ·.1) ∧
    ∀ name, Value.member? members name = Value.member? found.reverse name

section

variable (content : String → String → Value → Prop)

mutual

/-- A value element and the value that it denotes, where `content` says what typed elements without
structure denote. -/
inductive Denotes : Element → Value → Prop where
  | untyped {e : Element} (hname : e.name = "value") (helements : e.elements = []) :
      Denotes e (.string e.text)
  | scalar {e typed : Element} {v : Value} (hname : e.name = "value")
      (helements : e.elements = [typed]) (hcontent : content typed.name typed.text v) : Denotes e v
  | array {e typed data : Element} {items : List Value} (hname : e.name = "value")
      (helements : e.elements = [typed]) (htyped : typed.name = "array")
      (hdata : typed.child? "data" = some data) (hitems : DenoteItems data.elements items) :
      Denotes e (.array items)
  | struct {e typed : Element} {found members : List (String × Value)} (hname : e.name = "value")
      (helements : e.elements = [typed]) (htyped : typed.name = "struct")
      (hfound : DenoteMembers typed.elements found) (hmembers : LastOfEach found members) :
      Denotes e (.struct members)

/-- Value elements and the values that they denote, in order. -/
inductive DenoteItems : List Element → List Value → Prop where
  | nil : DenoteItems [] []
  | cons {e : Element} {v : Value} {es : List Element} {vs : List Value} (hv : Denotes e v)
      (hrest : DenoteItems es vs) : DenoteItems (e :: es) (v :: vs)

/-- Member elements with the names and the values that they denote, in order. -/
inductive DenoteMembers : List Element → List (String × Value) → Prop where
  | nil : DenoteMembers [] []
  | cons {e name value : Element} {v : Value} {es : List Element} {found : List (String × Value)}
      (he : e.name = "member") (hname : e.child? "name" = some name)
      (hvalue : e.child? "value" = some value) (hv : Denotes value v)
      (hrest : DenoteMembers es found) : DenoteMembers (e :: es) ((name.text, v) :: found)

end

end

/-! ## Scalars -/

section

variable {name text : String} {v : Value}

theorem textContent_of_integerContent (hname : name ∈ ["int", "i4", "i8"])
    (h : integerContent text = .ok v) : TextContent name text v := by
  obtain ⟨m, hm⟩ | ⟨n, hn, hwide⟩ | hnone := numeral_cases (trim text.toList)
  · rw [integerContent_of_fits hm] at h
    exact Except.ok.inj h ▸ .int hname hm
  · rw [integerContent_of_wide hn hwide] at h
    exact Except.ok.inj h ▸ .wideInt hname hn hwide
  · rw [integerContent_of_malformed hnone] at h
    cases h

theorem textContent_of_doubleContent (h : doubleContent text = .ok v) :
    TextContent "double" text v := by
  unfold doubleContent at h
  split at h
  · rename_i x hx
    exact Except.ok.inj h ▸ .double hx
  · cases h

theorem textContent_of_booleanContent (h : booleanContent text = .ok v) :
    TextContent "boolean" text v := by
  simp only [booleanContent] at h
  split at h
  · rename_i hyes
    exact Except.ok.inj h ▸ .yes hyes
  · split at h
    · rename_i hno
      exact Except.ok.inj h ▸ .no hno
    · cases h

theorem textContent_of_base64Content (h : base64Content text = .ok v) :
    TextContent "base64" text v := by
  unfold base64Content at h
  split at h
  · rename_i bytes hbytes
    exact Except.ok.inj h ▸ .base64 (Base64.decode?_eq_some_iff.1 hbytes)
  · cases h

/-- What a typed element without structure is read as is what it denotes. -/
theorem scalarContent_of_typing {content : String → Except MessageError Value}
    (htyping : typing? name = some (.scalar content)) (h : content text = .ok v) :
    ScalarContent name text v := by
  unfold typing? at htyping
  split at htyping <;>
    simp only [Option.some.injEq, Typing.scalar.injEq, reduceCtorEq] at htyping
  all_goals subst htyping
  case h_1 => exact Except.ok.inj h ▸ .inl (.string text)
  case h_2 => exact .inl (textContent_of_integerContent (by decide) h)
  case h_3 => exact .inl (textContent_of_integerContent (by decide) h)
  case h_4 => exact .inl (textContent_of_integerContent (by decide) h)
  case h_5 => exact .inl (textContent_of_doubleContent h)
  case h_6 => exact .inl (textContent_of_booleanContent h)
  case h_7 => exact Except.ok.inj h ▸ .inl (.dateTime text)
  case h_8 => exact .inl (textContent_of_base64Content h)
  case h_11 => exact .inr ⟨rfl, (Except.ok.inj h).symm⟩

theorem typing?_of_integer (hname : name ∈ ["int", "i4", "i8"]) :
    typing? name = some (.scalar integerContent) := by
  simp only [List.mem_cons, List.not_mem_nil, or_false] at hname
  rcases hname with rfl | rfl | rfl <;> rfl

/-- What a typed element without structure denotes is what it is read as. -/
theorem typing_of_scalarContent (h : ScalarContent name text v) :
    ∃ content, typing? name = some (.scalar content) ∧ content text = .ok v := by
  obtain h | ⟨rfl, rfl⟩ := h
  · cases h with
    | string => exact ⟨_, rfl, rfl⟩
    | int hname h => exact ⟨_, typing?_of_integer hname, integerContent_of_fits h⟩
    | wideInt hname h hwide => exact ⟨_, typing?_of_integer hname, integerContent_of_wide h hwide⟩
    | double h => exact ⟨doubleContent, rfl, by rw [doubleContent, h]⟩
    | yes h => exact ⟨booleanContent, rfl, if_pos h⟩
    | no h =>
      have hyes : ¬(trimmed text = "1" ∨ trimmed text = "true") := by
        rcases h with h | h <;> rw [h] <;> decide
      exact ⟨booleanContent, rfl, (if_neg hyes).trans (if_pos h)⟩
    | dateTime => exact ⟨_, rfl, rfl⟩
    | base64 h =>
      exact ⟨base64Content, rfl, by rw [base64Content, Base64.decode?_eq_some_iff.2 h]⟩
  · exact ⟨_, rfl, rfl⟩

/-- A typed element without structure is read by its text, and there are two with structure. -/
theorem typing?_cases {typing : Typing} (h : typing? name = some typing) :
    (∃ content, typing = .scalar content) ∨ (typing = .array ∧ name = "array") ∨
      (typing = .struct ∧ name = "struct") := by
  unfold typing? at h
  split at h <;> simp only [Option.some.injEq, reduceCtorEq] at h
  all_goals subst h
  case h_9 => exact .inr (.inl ⟨rfl, rfl⟩)
  case h_10 => exact .inr (.inr ⟨rfl, rfl⟩)
  all_goals exact .inl ⟨_, rfl⟩

end

/-! ## Reading follows the grammar -/

/-- Sorting found members leaves the last of each name. -/
theorem lastOfEach_iff {found members : List (String × Value)} :
    LastOfEach found members ↔ Value.sortMembers found = members := by
  constructor
  · rintro ⟨hsorted, hlast⟩
    refine Value.eq_of_member?_eq (Value.pairwise_sortMembers found) hsorted fun name => ?_
    rw [Value.member?_sortMembers, hlast]
  · rintro rfl
    exact ⟨Value.pairwise_sortMembers found, Value.member?_sortMembers found⟩

/-- A typed element is read by its text, or from the items or the members in it. -/
theorem interpretTyped_cases {typed : Element} {v : Value} (h : interpretTyped typed = .ok v) :
    ScalarContent typed.name typed.text v ∨
      (typed.name = "array" ∧ ∃ data items, childOf typed "data" = .ok data ∧
        interpretItems data.elements = .ok items ∧ v = .array items) ∨
      (typed.name = "struct" ∧ ∃ found, interpretMembers typed.elements = .ok found ∧
        v = .ofMembers found) := by
  unfold interpretTyped at h
  cases htyping : typing? typed.name with
  | none =>
    rw [htyping] at h
    cases h
  | some typing =>
    rw [htyping] at h
    obtain ⟨content, rfl⟩ | ⟨rfl, hname⟩ | ⟨rfl, hname⟩ := typing?_cases htyping
    · exact .inl (scalarContent_of_typing htyping h)
    · obtain ⟨data, hdata, h⟩ := bind_eq_ok h
      obtain ⟨items, hitems, rfl⟩ := map_eq_ok h
      exact .inr (.inl ⟨hname, data, items, hdata, hitems, rfl⟩)
    · obtain ⟨found, hfound, rfl⟩ := map_eq_ok h
      exact .inr (.inr ⟨hname, found, hfound, rfl⟩)

mutual

/-- What an element is read as is what it denotes. -/
theorem denotes_of_interpret {e : Element} {v : Value} (h : interpret e = .ok v) :
    Denotes ScalarContent e v := by
  rw [interpret_eq] at h
  split at h
  · cases h
  rename_i hname
  have hname : e.name = "value" := Decidable.not_not.1 hname
  split at h
  · rename_i helements
    exact Except.ok.inj h ▸ .untyped hname helements
  · rename_i typed helements
    -- The recursion is that of the reader, by weight.
    have htypedWeight : typed.weight < e.weight := Element.weight_lt_of_mem (by simp [helements])
    obtain hcontent | ⟨htyped, data, items, hdata, hitems, rfl⟩ | ⟨htyped, found, hfound, rfl⟩ :=
      interpretTyped_cases h
    · exact .scalar hname helements hcontent
    · have hdataWeight := Element.weight_lt_of_mem (mem_elements_of_childOf hdata)
      have hitemsWeight := data.weights_elements_lt
      exact .array hname helements htyped (childOf_eq_ok_iff.1 hdata)
        (denoteItems_of_interpretItems hitems)
    · have hfoundWeight := typed.weights_elements_lt
      exact .struct hname helements htyped (denoteMembers_of_interpretMembers hfound)
        (lastOfEach_iff.2 rfl)
  · cases h
termination_by e.weight
decreasing_by all_goals omega

theorem denoteItems_of_interpretItems {es : List Element} {items : List Value}
    (h : interpretItems es = .ok items) : DenoteItems ScalarContent es items := by
  match es with
  | [] =>
    rw [interpretItems] at h
    cases h
    exact .nil
  | e :: rest =>
    rw [interpretItems_cons] at h
    obtain ⟨v, hv, h⟩ := bind_eq_ok h
    obtain ⟨vs, hvs, rfl⟩ := map_eq_ok h
    exact .cons (denotes_of_interpret hv) (denoteItems_of_interpretItems hvs)
termination_by weights es
decreasing_by all_goals (simp only [weights]; omega)

theorem denoteMembers_of_interpretMembers {es : List Element} {found : List (String × Value)}
    (h : interpretMembers es = .ok found) : DenoteMembers ScalarContent es found := by
  match es with
  | [] =>
    rw [interpretMembers] at h
    cases h
    exact .nil
  | e :: rest =>
    rw [interpretMembers_cons] at h
    split at h
    · cases h
    rename_i hmember
    obtain ⟨name, hname, h⟩ := bind_eq_ok h
    obtain ⟨value, hvalue, h⟩ := bind_eq_ok h
    obtain ⟨v, hv, h⟩ := bind_eq_ok h
    obtain ⟨found, hfound, rfl⟩ := map_eq_ok h
    exact .cons (Decidable.not_not.1 hmember) (childOf_eq_ok_iff.1 hname)
      (childOf_eq_ok_iff.1 hvalue) (denotes_of_interpret hv)
      (denoteMembers_of_interpretMembers hfound)
termination_by weights es
decreasing_by
  · have hweight := Element.weight_lt_of_mem (mem_elements_of_childOf hvalue)
    simp only [weights]
    omega
  · simp only [weights]
    omega

end

mutual

/-- What an element denotes is what it is read as. -/
theorem interpret_of_denotes {e : Element} {v : Value} :
    Denotes ScalarContent e v → interpret e = .ok v
  | .untyped hname helements => by
    simp [interpret_eq, hname, helements]
  | .scalar hname helements hcontent => by
    obtain ⟨content, htyping, h⟩ := typing_of_scalarContent hcontent
    simp [interpret_eq, hname, helements, interpretTyped, htyping, h]
  | .array hname helements htyped hdata hitems => by
    have hitems := interpretItems_of_denoteItems hitems
    simp [interpret_eq, hname, helements, interpretTyped, htyped, typing?,
      childOf_eq_ok_iff.2 hdata, bind, Except.bind, hitems, Except.map]
  | .struct hname helements htyped hfound hmembers => by
    have hfound := interpretMembers_of_denoteMembers hfound
    simp [interpret_eq, hname, helements, interpretTyped, htyped, typing?, hfound, Except.map,
      Value.ofMembers, lastOfEach_iff.1 hmembers]

theorem interpretItems_of_denoteItems {es : List Element} {items : List Value} :
    DenoteItems ScalarContent es items → interpretItems es = .ok items
  | .nil => by rw [interpretItems]
  | .cons hv hrest => by
    rw [interpretItems_cons, interpret_of_denotes hv, interpretItems_of_denoteItems hrest]
    rfl

theorem interpretMembers_of_denoteMembers {es : List Element} {found : List (String × Value)} :
    DenoteMembers ScalarContent es found → interpretMembers es = .ok found
  | .nil => by rw [interpretMembers]
  | .cons he hname hvalue hv hrest => by
    rw [interpretMembers_cons, if_neg (not_not_intro he), childOf_eq_ok_iff.2 hname,
      childOf_eq_ok_iff.2 hvalue]
    simp only [bind, Except.bind, interpret_of_denotes hv, interpretMembers_of_denoteMembers hrest]
    rfl

end

/-- An element is read as a value just when it denotes it by the grammar. -/
theorem interpret_eq_ok_iff {e : Element} {v : Value} :
    interpret e = .ok v ↔ Denotes ScalarContent e v :=
  ⟨denotes_of_interpret, interpret_of_denotes⟩

theorem not_textContent_nil {name text : String} : ¬TextContent name text .nil := by
  intro h
  cases h

/-- Nil has a typed element of its own: it is read, though no text and no structure denotes it. -/
theorem nil_read_without_content :
    let e : Element := ⟨"value", [.element "nil" []]⟩
    ¬(interpret e = .ok .nil ↔ Denotes TextContent e .nil) := by
  intro e h
  have hread : interpret e = .ok .nil := by
    rw [interpret_eq]
    rfl
  cases h.1 hread with
  | scalar hname helements hcontent => exact not_textContent_nil hcontent

end PoolClient
