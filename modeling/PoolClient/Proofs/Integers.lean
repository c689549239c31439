import Mathlib.Data.List.Induction
import Mathlib.Data.Nat.Digits.Defs
import PoolClient.Proofs.Blanks
import PoolClient.Proofs.Numerals
import PoolClient.Schema.Decode
/-!
# Integers

`SignedNumeral` is the grammar of integers, of any length, with the number that they denote. Both
readers of integers follow it: the text of a typed integer is read as its number, refused as too
wide or refused as no integer (`integerOfText_of_fits` and what follows it), and the content of an
integer element is the number, or its digits if it is too wide. So both agree on every text
(`decode_integer`).
-/

namespace PoolClient

namespace Number

/-! ## The grammar -/

/-- The number that decimal digits denote, the first of them being the highest. -/
def decimalValue (ds : List Char) : Nat :=
  Nat.ofDigits 10 (ds.reverse.map fun c => c.toNat - '0'.toNat)

/-- One or more ASCII digits, perhaps after one plus or minus, and the number that they denote. -/
inductive SignedNumeral : List Char → Int → Prop where
  | bare {ds : List Char} (hne : ds ≠ []) (hds : ∀ c ∈ ds, c.isDigit = true) :
      SignedNumeral ds (decimalValue ds)
  | plus {ds : List Char} (hne : ds ≠ []) (hds : ∀ c ∈ ds, c.isDigit = true) :
      SignedNumeral ('+' :: ds) (decimalValue ds)
  | minus {ds : List Char} (hne : ds ≠ []) (hds : ∀ c ∈ ds, c.isDigit = true) :
      SignedNumeral ('-' :: ds) (-decimalValue ds)

theorem natOfDigits_eq (ds : List Char) : natOfDigits ds = decimalValue ds := by
  induction ds using List.reverseRecOn with
  | nil => rfl
  | append_singleton ds c ih =>
    rw [natOfDigits_append_singleton, ih, decimalValue, decimalValue, List.reverse_append,
      List.map_append, List.reverse_singleton, List.map_singleton, List.singleton_append,
      Nat.ofDigits_cons, Nat.add_comm]
    rfl

/-- A sign in front is split off, and nothing else. -/
theorem splitSign_cases (cs : List Char) :
    (∃ ds, cs = '-' :: ds ∧ splitSign cs = (true, ds)) ∨
      (∃ ds, cs = '+' :: ds ∧ splitSign cs = (false, ds)) ∨ splitSign cs = (false, cs) := by
  unfold splitSign
  split
  · exact .inl ⟨_, rfl, rfl⟩
  · exact .inr (.inl ⟨_, rfl, rfl⟩)
  · exact .inr (.inr rfl)

/-- The integers that are read are those of the grammar. -/
theorem integer?_eq_some_iff {cs : List Char} {n : Int} :
    integer? cs = some n ↔ SignedNumeral cs n := by
  constructor
  · intro h
    simp only [integer?, natOfDigits_eq] at h
    split at h
    · rename_i hnumeral
      obtain ⟨hne, hds⟩ := isNumeral_iff.1 hnumeral
      obtain ⟨ds, rfl, hsplit⟩ | ⟨ds, rfl, hsplit⟩ | hsplit := splitSign_cases cs <;>
        rw [hsplit] at h hne hds
      · exact Option.some.inj h ▸ .minus hne hds
      · exact Option.some.inj h ▸ .plus hne hds
      · exact Option.some.inj h ▸ .bare hne hds
    · cases h
  · rintro (⟨hne, hds⟩ | ⟨hne, hds⟩ | ⟨hne, hds⟩)
    · have hnumeral := isNumeral_iff.2 ⟨hne, hds⟩
      simp [integer?, splitSign_of_isNumeral hnumeral, hnumeral, natOfDigits_eq]
    · simp [integer?, splitSign, isNumeral_iff.2 ⟨hne, hds⟩, natOfDigits_eq]
    · simp [integer?, splitSign, isNumeral_iff.2 ⟨hne, hds⟩, natOfDigits_eq]

theorem isNumeral_splitSign_iff {cs : List Char} :
    isNumeral (splitSign cs).2 = true ↔ ∃ n, SignedNumeral cs n := by
  constructor
  · intro h
    exact ⟨_, integer?_eq_some_iff.1 (if_pos h)⟩
  · rintro ⟨n, h⟩
    by_contra hnumeral
    have hnone : integer? cs = none := if_neg hnumeral
    rw [integer?_eq_some_iff.2 h] at hnone
    cases hnone

/-! ## Integers of 64 bits -/

theorem fitsInt64_iff {n : Int} : fitsInt64 n = true ↔ -2 ^ 63 ≤ n ∧ n < 2 ^ 63 := by
  simp only [fitsInt64, Bool.and_eq_true, decide_eq_true_eq]
  omega

theorem toInt_ofInt {n : Int} (h : -2 ^ 63 ≤ n ∧ n < 2 ^ 63) : (Int64.ofInt n).toInt = n :=
  Int64.toInt_ofInt_of_le h.1 h.2

theorem int64?_eq_some_iff {cs : List Char} {m : Int64} :
    int64? cs = some m ↔ SignedNumeral cs m.toInt := by
  rw [← integer?_eq_some_iff, int64?]
  constructor
  · intro h
    split at h
    · rename_i n hn
      split at h
      · rename_i hfits
        rw [hn, ← Option.some.inj h, toInt_ofInt (fitsInt64_iff.1 hfits)]
      · cases h
    · cases h
  · intro h
    simp [h, fitsInt64_toInt]

/-- A text is an integer of 64 bits, an integer that is too wide, or no integer. -/
theorem numeral_cases (cs : List Char) :
    (∃ m : Int64, SignedNumeral cs m.toInt) ∨
      (∃ n, SignedNumeral cs n ∧ ¬(-2 ^ 63 ≤ n ∧ n < 2 ^ 63)) ∨ ∀ n, ¬SignedNumeral cs n := by
  by_cases h : ∃ n, SignedNumeral cs n
  · obtain ⟨n, hn⟩ := h
    by_cases hfits : -2 ^ 63 ≤ n ∧ n < 2 ^ 63
    · exact .inl ⟨.ofInt n, (toInt_ofInt hfits).symm ▸ hn⟩
    · exact .inr (.inl ⟨n, hn, hfits⟩)
  · exact .inr (.inr (not_exists.1 h))

theorem int64?_eq_none {cs : List Char} {n : Int} (h : SignedNumeral cs n)
    (hwide : ¬(-2 ^ 63 ≤ n ∧ n < 2 ^ 63)) : int64? cs = none := by
  have hfits : fitsInt64 n = false := Bool.eq_false_iff.2 fun hfits => hwide (fitsInt64_iff.1 hfits)
  rw [int64?, integer?_eq_some_iff.2 h]
  simp [hfits]

theorem isNumeral_splitSign_eq_false {cs : List Char} (h : ∀ n, ¬SignedNumeral cs n) :
    isNumeral (splitSign cs).2 = false :=
  Bool.eq_false_iff.2 fun hnumeral => (isNumeral_splitSign_iff.1 hnumeral).elim h

theorem int64?_eq_none_of_malformed {cs : List Char} (h : ∀ n, ¬SignedNumeral cs n) :
    int64? cs = none := by
  cases hread : int64? cs with
  | none => rfl
  | some m => exact absurd (int64?_eq_some_iff.1 hread) (h m.toInt)

end Number

open Number Schema Text

/-! ## The two readers -/

section

variable {text : String} {m : Int64} {n : Int}

namespace Schema

variable (label : String)

theorem integerOfText_of_fits (h : SignedNumeral (trim text.toList) m.toInt) :
    integerOfText label text = .ok m := by
  simp only [integerOfText, int64?_eq_some_iff.2 h]

theorem integerOfText_of_wide (h : SignedNumeral (trim text.toList) n)
    (hwide : ¬(-2 ^ 63 ≤ n ∧ n < 2 ^ 63)) :
    integerOfText label text = .error ⟨label, .integerOutOfRange (trimmed text)⟩ := by
  simp only [integerOfText, int64?_eq_none h hwide, isNumeral_splitSign_iff.2 ⟨n, h⟩, if_true,
    trimmed]

theorem integerOfText_of_malformed (h : ∀ n, ¬SignedNumeral (trim text.toList) n) :
    integerOfText label text = .error ⟨label, .invalidInteger text⟩ := by
  simp only [integerOfText, int64?_eq_none_of_malformed h, isNumeral_splitSign_eq_false h,
    Bool.false_eq_true, if_false]

end Schema

theorem integerContent_of_fits (h : SignedNumeral (trim text.toList) m.toInt) :
    integerContent text = .ok (.int m) := by
  simp only [integerContent, int64?_eq_some_iff.2 h]

/-- An integer that is too wide keeps its digits. -/
theorem integerContent_of_wide (h : SignedNumeral (trim text.toList) n)
    (hwide : ¬(-2 ^ 63 ≤ n ∧ n < 2 ^ 63)) : integerContent text = .ok (.string (trimmed text)) := by
  simp only [integerContent, int64?_eq_none h hwide, isNumeral_splitSign_iff.2 ⟨n, h⟩, if_true,
    trimmed]

theorem integerContent_of_malformed (h : ∀ n, ¬SignedNumeral (trim text.toList) n) :
    integerContent text = .error (.invalidScalar .int text) := by
  simp only [integerContent, int64?_eq_none_of_malformed h, isNumeral_splitSign_eq_false h,
    Bool.false_eq_true, if_false]

end

/-- The text of an integer is read as its number if this has 64 bits, and refused with its digits
if it has more; any other text is refused as it stands. An integer element with the same text is
read just when the text is an integer, and what is read then gives the same integer, or the same
refusal under the same label. -/
theorem decode_integer (label s : String) :
    (∀ n, SignedNumeral (trim s.toList) n →
      if -2 ^ 63 ≤ n ∧ n < 2 ^ 63 then
        ∃ m : Int64, m.toInt = n ∧ WireType.integer.decode label (.string s) = .ok (.integer m)
      else
        WireType.integer.decode label (.string s) =
          .error ⟨label, .integerOutOfRange (trimmed s)⟩) ∧
    ((∀ n, ¬SignedNumeral (trim s.toList) n) →
      WireType.integer.decode label (.string s) = .error ⟨label, .invalidInteger s⟩) ∧
    ((∃ v, integerContent s = .ok v) ↔ ∀ text,
      WireType.integer.decode label (.string s) ≠ .error ⟨label, .invalidInteger text⟩) ∧
    ∀ v, integerContent s = .ok v →
      WireType.integer.decode label v = WireType.integer.decode label (.string s) := by
  have hdecode : ∀ text, WireType.integer.decode label (.string text) =
      (integerOfText label text).map .integer := fun _ => rfl
  simp only [hdecode]
  refine ⟨fun n hn => ?_, fun h => ?_, ?_⟩
  · split
    · rename_i hfits
      refine ⟨.ofInt n, toInt_ofInt hfits, ?_⟩
      rw [integerOfText_of_fits label ((toInt_ofInt hfits).symm ▸ hn)]
      rfl
    · rename_i hwide
      rw [integerOfText_of_wide label hn hwide]
      rfl
  · rw [integerOfText_of_malformed label h]
    rfl
  · obtain ⟨m, h⟩ | ⟨n, h, hwide⟩ | h := numeral_cases (trim s.toList)
    · rw [integerContent_of_fits h, integerOfText_of_fits label h]
      simp [Except.map, WireType.decode]
    · have htrimmed : SignedNumeral (trim (trimmed s).toList) n := by
        rw [trimmed, String.toList_ofList, trim_trim]
        exact h
      have hagain : integerOfText label (trimmed s) =
          .error ⟨label, .integerOutOfRange (trimmed s)⟩ := by
        rw [integerOfText_of_wide label htrimmed hwide, trimmed_trimmed]
      rw [integerContent_of_wide h hwide, integerOfText_of_wide label h hwide]
      simp [Except.map, hdecode, hagain]
    · rw [integerContent_of_malformed h, integerOfText_of_malformed label h]
      simp [Except.map]

/-- The number one above those of 64 bits, with a sign and a zero in front and blanks around it, the
lowest number of 64 bits, and a sign on its own. -/
theorem decode_integer_limits :
    let wide := "\u3000+09223372036854775808\n"
    (WireType.integer.decode "VM.memory" (.string wide) =
        .error ⟨"VM.memory", .integerOutOfRange "+09223372036854775808"⟩ ∧
      integerContent wide = .ok (.string "+09223372036854775808") ∧
      WireType.integer.decode "VM.memory" (.string "+09223372036854775808") =
        WireType.integer.decode "VM.memory" (.string wide)) ∧
    (∃ m : Int64, m.toInt = -9223372036854775808 ∧
      WireType.integer.decode "id" (.string "-9223372036854775808") = .ok (.integer m)) ∧
    WireType.integer.decode "id" (.string "+ ") = .error ⟨"id", .invalidInteger "+ "⟩ := by
  intro wide
  have hwide : SignedNumeral (trim wide.toList) 9223372036854775808 :=
    integer?_eq_some_iff.1 (by decide +kernel)
  have hlow : SignedNumeral (trim "-9223372036854775808".toList) (-9223372036854775808) :=
    integer?_eq_some_iff.1 (by decide +kernel)
  have hsign : ∀ n, ¬SignedNumeral (trim "+ ".toList) n := by
    intro n h
    have hnone : integer? (trim "+ ".toList) = none := by decide +kernel
    rw [integer?_eq_some_iff.2 h] at hnone
    cases hnone
  have htrimmed : trimmed wide = "+09223372036854775808" := by decide +kernel
  have hkept : integerContent wide = .ok (.string "+09223372036854775808") := by
    rw [integerContent_of_wide hwide (by decide), htrimmed]
  obtain ⟨hinteger, -, -, hnative⟩ := decode_integer "VM.memory" wide
  have hrefused := hinteger _ hwide
  have hread := (decode_integer "id" "-9223372036854775808").1 _ hlow
  rw [if_neg (by decide), htrimmed] at hrefused
  rw [if_pos (by decide)] at hread
  exact ⟨⟨hrefused, hkept, hnative _ hkept⟩, hread, (decode_integer "id" "+ ").2.1 hsign⟩

end PoolClient
