import PoolClient.Number.Reading
import PoolClient.Proofs.Numerals
/-!
# Printed doubles can be read

The printed form of a double is one of the words `NaN` and `inf` or an unsigned decimal
(`UnsignedDecimal`), perhaps with a minus in front. Each of these is read as some double
(`isSome_double?_doubleText`); which one it is, is not said here.
-/

namespace PoolClient

open Number Text

/-! ## Digits -/

theorem isDigit_of_isNumeral {ds : List Char} (h : isNumeral ds = true) :
    ∀ c ∈ ds, c.isDigit = true :=
  (isNumeral_iff.1 h).2

theorem ne_nil_of_isNumeral {ds : List Char} (h : isNumeral ds = true) : ds ≠ [] :=
  (isNumeral_iff.1 h).1

theorem isNumeral_append {ds rest : List Char} (hds : isNumeral ds = true)
    (hrest : ∀ c ∈ rest, c.isDigit = true) : isNumeral (ds ++ rest) = true := by
  obtain ⟨hne, hall⟩ := isNumeral_iff.1 hds
  exact isNumeral_iff.2 ⟨List.append_ne_nil_of_left_ne_nil hne rest,
    List.forall_mem_append.2 ⟨hall, hrest⟩⟩

theorem isDigit_of_mem_zeros {n : Nat} : ∀ c ∈ List.replicate n '0', c.isDigit = true := by
  intro c hc
  rw [List.eq_of_mem_replicate hc]
  rfl

/-- Digits are read up to what is no digit. -/
theorem spanDigits_append {ds rest : List Char} (hds : ∀ c ∈ ds, c.isDigit = true)
    (hrest : ∀ c ∈ rest.head?, c.isDigit = false) : spanDigits (ds ++ rest) = (ds, rest) := by
  have hstop : rest.takeWhile Char.isDigit = [] ∧ rest.dropWhile Char.isDigit = rest := by
    cases rest with
    | nil => exact ⟨rfl, rfl⟩
    | cons c rest =>
      have hc : ¬ c.isDigit = true := by simp [hrest c rfl]
      exact ⟨List.takeWhile_cons_of_neg hc, List.dropWhile_cons_of_neg hc⟩
  rw [spanDigits, List.takeWhile_append_of_pos hds, List.dropWhile_append_of_pos hds, hstop.1,
    hstop.2, List.append_nil]

theorem spanDigits_eq_self {ds : List Char} (hds : ∀ c ∈ ds, c.isDigit = true) :
    spanDigits ds = (ds, []) := by
  have h : spanDigits (ds ++ []) = (ds, []) := spanDigits_append hds (by simp)
  rwa [List.append_nil] at h

/-! ## Unsigned decimals -/

/-- Digits, and perhaps a point with more digits after it. -/
inductive UnsignedDecimal : List Char → Prop where
  | whole {ds : List Char} (hds : isNumeral ds = true) : UnsignedDecimal ds
  | fraction {ds fs : List Char} (hds : isNumeral ds = true)
      (hfs : ∀ c ∈ fs, c.isDigit = true) : UnsignedDecimal (ds ++ '.' :: fs)

namespace UnsignedDecimal

variable {cs : List Char}

theorem isSome_decimalParts? (h : UnsignedDecimal cs) : (decimalParts? cs).isSome = true := by
  cases h with
  | whole hds =>
    have hne := ne_nil_of_isNumeral hds
    simp [decimalParts?, spanDigits_eq_self (isDigit_of_isNumeral hds), hne, exponent?]
  | @fraction ds fs hds hfs =>
    have hne := ne_nil_of_isNumeral hds
    have hpoint : spanDigits (ds ++ '.' :: fs) = (ds, '.' :: fs) := by
      refine spanDigits_append (isDigit_of_isNumeral hds) fun c hc => ?_
      cases hc
      rfl
    simp [decimalParts?, hpoint, spanDigits_eq_self hfs, hne, exponent?]

theorem isSome_magnitude? (h : UnsignedDecimal cs) : (magnitude? cs).isSome = true := by
  simp only [magnitude?]
  split
  · rfl
  · split
    · rfl
    · rw [Option.isSome_map]
      exact h.isSome_decimalParts?

/-- An unsigned decimal begins with a digit, so no sign is taken off. -/
theorem splitSign_eq (h : UnsignedDecimal cs) : splitSign cs = (false, cs) := by
  have hhead : ∀ {ds rest : List Char}, isNumeral ds = true →
      splitSign (ds ++ rest) = (false, ds ++ rest) := by
    intro ds rest hds
    cases ds with
    | nil => cases hds
    | cons c ds =>
      have hc := isDigit_of_isNumeral hds c List.mem_cons_self
      unfold splitSign
      split
      · rename_i heq
        cases heq
        cases hc
      · rename_i heq
        cases heq
        cases hc
      · rfl
  cases h with
  | whole hds =>
    have h : splitSign (cs ++ []) = (false, cs ++ []) := hhead hds
    rwa [List.append_nil] at h
  | fraction hds hfs => exact hhead hds

end UnsignedDecimal

theorem unsignedDecimal_positional (d : Decimal) : UnsignedDecimal d.positional := by
  have hds := isNumeral_digits d.coefficient
  have hall := isDigit_of_mem_digits d.coefficient
  unfold Decimal.positional
  split
  · exact .whole (isNumeral_append hds isDigit_of_mem_zeros)
  · simp only
    split
    · have hwhole : isNumeral ((digits d.coefficient).take
          ((digits d.coefficient).length - (-d.power).toNat)) = true := by
        have hne : (digits d.coefficient).take
            ((digits d.coefficient).length - (-d.power).toNat) ≠ [] := by
          rw [Ne, List.take_eq_nil_iff]
          rintro (h | h)
          · omega
          · exact digits_ne_nil d.coefficient h
        simp only [isNumeral, Bool.and_eq_true, List.all_eq_true]
        exact ⟨by simp [hne], fun c hc => hall c (List.mem_of_mem_take hc)⟩
      rw [List.append_assoc]
      exact .fraction hwhole fun c hc => hall c (List.mem_of_mem_drop hc)
    · have hzero : isNumeral ['0'] = true := rfl
      refine .fraction hzero fun c hc => ?_
      rcases List.mem_append.1 hc with hc | hc
      · exact isDigit_of_mem_zeros c hc
      · exact hall c hc

/-! ## Doubles -/

theorem isSome_magnitude?_inf : (magnitude? ['i', 'n', 'f']).isSome = true := by
  simp [magnitude?]

/-- A sign does not keep an unsigned double from being read. -/
theorem isSome_double?_signed {cs : List Char} (hsign : splitSign cs = (false, cs))
    (hcs : (magnitude? cs).isSome = true) (negative : Prop) [Decidable negative] :
    (double? ((if negative then ['-'] else []) ++ cs)).isSome = true := by
  split
  · simpa [double?, splitSign] using hcs
  · simpa [double?, hsign] using hcs

/-- The printed form of a double can be read. -/
theorem isSome_double?_doubleText (x : Float) : (double? (doubleText x).toList).isSome = true := by
  unfold doubleText
  split
  · rfl
  · simp only
    split
    · rw [String.toList_ofList]
      exact isSome_double?_signed rfl isSome_magnitude?_inf _
    · rw [String.toList_ofList]
      have hdecimal : UnsignedDecimal (if (Binary.ofBits x.toBits).mantissa = 0 then ['0']
          else (Binary.ofBits x.toBits).shortest.positional) := by
        split
        · exact .whole rfl
        · exact unsignedDecimal_positional _
      exact isSome_double?_signed hdecimal.splitSign_eq hdecimal.isSome_magnitude? _

end PoolClient
