import PoolClient.Message.Writing
/-!
# Numbers and bytes as text

Numbers and base64 are written in plain characters (`isPlain`), which markup does not reserve
and which are no blanks. A written integer reads back (`int64?_int64Text`).
-/

namespace PoolClient

open Markup Number Text

/-! ## Plain characters -/

/-- The characters from plus to small z, without the angle brackets. -/
def isPlain (c : Char) : Bool :=
  43 ≤ c.toNat && c.toNat ≤ 122 && c.toNat != 60 && c.toNat != 62

/-- A text of plain characters. -/
def PlainText (cs : List Char) : Prop :=
  ∀ c ∈ cs, isPlain c = true

theorem isPlain_iff {c : Char} :
    isPlain c = true ↔ 43 ≤ c.toNat ∧ c.toNat ≤ 122 ∧ c.toNat ≠ 60 ∧ c.toNat ≠ 62 := by
  simp [isPlain, and_assoc]

theorem ne_of_isPlain {c d : Char} (h : isPlain c = true) (hd : isPlain d = false) : c ≠ d := by
  rintro rfl
  rw [h] at hd
  cases hd

theorem isPlain_of_isDigit {c : Char} (h : c.isDigit = true) : isPlain c = true := by
  have hrange : 48 ≤ c.toNat ∧ c.toNat ≤ 57 := by
    simp only [Char.isDigit, ge_iff_le, Bool.and_eq_true, decide_eq_true_eq,
      UInt32.le_iff_toNat_le] at h
    exact h
  rw [isPlain_iff]
  omega

theorem isBlank_of_isPlain {c : Char} (h : isPlain c = true) : isBlank c = false := by
  rw [isPlain_iff] at h
  simp only [isBlank, Bool.or_eq_false_iff, Bool.and_eq_false_iff, decide_eq_false_iff_not,
    beq_eq_false_iff_ne]
  omega

theorem isAsciiBlank_of_isPlain {c : Char} (h : isPlain c = true) : isAsciiBlank c = false := by
  have hne : ∀ d, isPlain d = false → (c == d) = false :=
    fun d hd => beq_false_of_ne (ne_of_isPlain h hd)
  rw [isAsciiBlank, hne ' ' rfl, hne '\t' rfl, hne '\n' rfl, hne '\x0c' rfl, hne '\r' rfl]
  rfl

theorem escapeChar_of_isPlain {c : Char} (h : isPlain c = true) : escapeChar c = [c] := by
  unfold escapeChar
  split
  case h_6 => rfl
  all_goals cases h

namespace PlainText

variable {c : Char} {cs ds : List Char}

theorem nil : PlainText [] :=
  fun _ hc => nomatch hc

theorem append (hcs : PlainText cs) (hds : PlainText ds) : PlainText (cs ++ ds) := by
  intro c hc
  rcases List.mem_append.1 hc with hc | hc
  · exact hcs c hc
  · exact hds c hc

theorem cons (hc : isPlain c = true) (hcs : PlainText cs) : PlainText (c :: cs) := by
  intro d hd
  rcases List.mem_cons.1 hd with rfl | hd
  · exact hc
  · exact hcs d hd

theorem replicate (hc : isPlain c = true) (n : Nat) : PlainText (List.replicate n c) := by
  intro d hd
  rw [List.eq_of_mem_replicate hd]
  exact hc

/-- Plain text is its own escaped form. -/
theorem escape_eq (h : PlainText cs) : escape cs = cs := by
  induction cs with
  | nil => rfl
  | cons c cs ih =>
    have hc : isPlain c = true := h c (by simp)
    have htail : escape cs = cs := ih fun d hd => h d (by simp [hd])
    rw [escape] at htail ⊢
    rw [List.flatMap_cons, escapeChar_of_isPlain hc, htail, List.singleton_append]

/-- Plain text has no blanks to take off. -/
theorem trim_eq (h : PlainText cs) : trim cs = cs := by
  have hdrop : ∀ ds : List Char, PlainText ds → ds.dropWhile isBlank = ds := by
    intro ds hds
    cases ds with
    | nil => rfl
    | cons d ds =>
      have hd : isBlank d = false := isBlank_of_isPlain (hds d (by simp))
      exact List.dropWhile_cons_of_neg (by simp [hd])
  have hreverse : PlainText cs.reverse := fun c hc => h c (List.mem_reverse.1 hc)
  rw [trim, hdrop cs h, dropEndWhile, hdrop _ hreverse, List.reverse_reverse]

/-- Plain text has no blanks to leave out. -/
theorem filter_eq (h : PlainText cs) : cs.filter (!isAsciiBlank ·) = cs := by
  rw [List.filter_eq_self]
  intro c hc
  simp [isAsciiBlank_of_isPlain (h c hc)]

end PlainText

/-! ## Integers -/

theorem isDigit_digit {d : Nat} (h : d < 10) : (digit d).isDigit = true := by
  have : ∀ i : Fin 10, (digit i).isDigit = true := by decide
  exact this ⟨d, h⟩

theorem isDigit_of_mem_digits (n : Nat) : ∀ c ∈ digits n, c.isDigit = true := by
  fun_induction digits n with
  | case1 n h =>
    intro c hc
    rw [List.mem_singleton.1 hc]
    exact isDigit_digit h
  | case2 n h ih =>
    intro c hc
    rcases List.mem_append.1 hc with hc | hc
    · exact ih c hc
    · rw [List.mem_singleton.1 hc]
      exact isDigit_digit (Nat.mod_lt _ (by omega))

theorem digits_ne_nil (n : Nat) : digits n ≠ [] := by
  rw [digits]
  split <;> simp

theorem isNumeral_iff {ds : List Char} :
    isNumeral ds = true ↔ ds ≠ [] ∧ ∀ c ∈ ds, c.isDigit = true := by
  simp [isNumeral]

theorem isNumeral_digits (n : Nat) : isNumeral (digits n) = true :=
  isNumeral_iff.2 ⟨digits_ne_nil n, isDigit_of_mem_digits n⟩

theorem plainText_digits (n : Nat) : PlainText (digits n) :=
  fun c hc => isPlain_of_isDigit (isDigit_of_mem_digits n c hc)

/-- A numeral has no sign. -/
theorem splitSign_of_isNumeral {cs : List Char} (h : isNumeral cs = true) :
    splitSign cs = (false, cs) := by
  unfold splitSign
  split
  · simp [isNumeral, Char.isDigit] at h
  · simp [isNumeral, Char.isDigit] at h
  · rfl

theorem plainText_integerText (n : Int) : PlainText (integerText n).toList := by
  rw [integerText, String.toList_ofList]
  split
  · exact .cons rfl (plainText_digits _)
  · exact plainText_digits _

/-- A written integer reads back. -/
theorem integer?_integerText (n : Int) : integer? (integerText n).toList = some n := by
  rw [integerText, String.toList_ofList]
  by_cases hn : n < 0
  · simp only [hn, if_true, integer?, splitSign, isNumeral_digits, natOfDigits_digits]
    congr
    omega
  · rw [if_neg hn, integer?, splitSign_of_isNumeral (isNumeral_digits _)]
    simp only [isNumeral_digits, natOfDigits_digits, if_true, Bool.false_eq_true, if_false]
    congr
    omega

theorem fitsInt64_toInt (n : Int64) : fitsInt64 n.toInt = true := by
  have hlow := n.le_toInt
  have hhigh := n.toInt_lt
  simp only [fitsInt64, Bool.and_eq_true, decide_eq_true_eq]
  omega

/-- A written 64-bit integer reads back. -/
theorem int64?_int64Text (n : Int64) : int64? (int64Text n).toList = some n := by
  rw [int64Text, int64?, integer?_integerText]
  simp [fitsInt64_toInt]

/-! ## Doubles -/

theorem plainText_positional (d : Decimal) : PlainText d.positional := by
  have hds := plainText_digits d.coefficient
  unfold Decimal.positional
  split
  · exact hds.append (.replicate rfl _)
  · simp only
    split
    · refine .append (.append ?_ (.cons rfl .nil)) ?_
      · exact fun c hc => hds c (List.mem_of_mem_take hc)
      · exact fun c hc => hds c (List.mem_of_mem_drop hc)
    · exact .append (.append (.cons rfl (.cons rfl .nil)) (.replicate rfl _)) hds

theorem plainText_doubleText (x : Float) : PlainText (doubleText x).toList := by
  have hsign : PlainText (if Nat.pow 2 63 ≤ x.toBits.toNat then ['-'] else []) := by
    split
    · exact .cons rfl .nil
    · exact .nil
  unfold doubleText
  split
  · exact .cons rfl (.cons rfl (.cons rfl .nil))
  · simp only
    split
    · rw [String.toList_ofList]
      exact hsign.append (.cons rfl (.cons rfl (.cons rfl .nil)))
    · rw [String.toList_ofList]
      refine hsign.append ?_
      split
      · exact .cons rfl .nil
      · exact plainText_positional _

/-! ## Bytes -/

theorem isPlain_sextetChar {n : Nat} (h : n < 64) : isPlain (Base64.sextetChar n) = true := by
  have : ∀ i : Fin 64, isPlain (Base64.sextetChar i) = true := by decide
  exact this ⟨n, h⟩

theorem plainText_encode (bytes : List UInt8) : PlainText (Base64.encode bytes) := by
  fun_induction Base64.encode bytes with
  | case1 => exact .nil
  | case2 a =>
    have ha := a.toNat_lt
    exact .cons (isPlain_sextetChar (by omega)) (.cons (isPlain_sextetChar (by omega))
      (.cons rfl (.cons rfl .nil)))
  | case3 a b =>
    have ha := a.toNat_lt
    have hb := b.toNat_lt
    exact .cons (isPlain_sextetChar (by omega)) (.cons (isPlain_sextetChar (by omega))
      (.cons (isPlain_sextetChar (by omega)) (.cons rfl .nil)))
  | case4 a b c rest ih =>
    have ha := a.toNat_lt
    have hb := b.toNat_lt
    have hc := c.toNat_lt
    exact .cons (isPlain_sextetChar (by omega)) (.cons (isPlain_sextetChar (by omega))
      (.cons (isPlain_sextetChar (by omega)) (.cons (isPlain_sextetChar (by omega)) ih)))

end PoolClient
