import Mathlib.Algebra.Group.Nat.Defs
import Mathlib.Data.List.Induction
import PoolClient.Proofs.Calendar
import PoolClient.Proofs.Numerals
import PoolClient.Time.Instant
/-!
# Instants read back

The text of an instant is read as its second if the year has four digits (`read?_text`), and is
not read otherwise (`read?_text_eq_none`), since the writer puts a sign in front of other years.
Numbers of a fixed width are read one after another (`fixedDigits_padded`), up to the offset at
the end (`readWithOffset?_dashed`). What is read is a second with a part of it, or a leap second
with a part of it (`Instant.proper_of_read?`).
-/

namespace PoolClient

open Number

/-! ## Numbers of a fixed width -/

namespace Number

theorem length_digits_le {width n : Nat} (hwidth : 0 < width) (h : n < 10 ^ width) :
    (digits n).length ≤ width := by
  fun_induction digits n generalizing width with
  | case1 n hn => exact hwidth
  | case2 n hn ih =>
    obtain ⟨width, rfl⟩ := Nat.exists_eq_add_one.2 hwidth
    have hpos : 0 < width := by
      refine Nat.pos_of_ne_zero fun hzero => ?_
      subst hzero
      exact hn h
    have hdiv : n / 10 < 10 ^ width := by
      rw [Nat.div_lt_iff_lt_mul (by decide)]
      simpa [Nat.pow_succ] using h
    have hlength := ih hpos hdiv
    simp only [List.length_append, List.length_singleton]
    omega

theorem length_padded {width n : Nat} (hwidth : 0 < width) (h : n < 10 ^ width) :
    (padded width n).length = width := by
  have hlength := length_digits_le hwidth h
  simp only [padded, List.length_append, List.length_replicate]
  omega

theorem isDigit_of_mem_padded {width n : Nat} : ∀ c ∈ padded width n, c.isDigit = true := by
  intro c hc
  rcases List.mem_append.1 hc with hc | hc
  · rw [List.eq_of_mem_replicate hc]
    rfl
  · exact isDigit_of_mem_digits n c hc

/-- Zeros in front do not change a number. -/
theorem natOfDigits_replicate_append (k : Nat) (cs : List Char) :
    natOfDigits (List.replicate k '0' ++ cs) = natOfDigits cs := by
  induction k with
  | zero => rfl
  | succ k ih => rw [List.replicate_succ, List.cons_append, ← ih]; rfl

theorem natOfDigits_padded (width n : Nat) : natOfDigits (padded width n) = n := by
  rw [padded, natOfDigits_replicate_append, natOfDigits_digits]

/-- A number of `n` digits is less than `10 ^ n`. -/
theorem natOfDigits_lt {cs : List Char} (h : ∀ c ∈ cs, c.isDigit = true) :
    natOfDigits cs < 10 ^ cs.length := by
  induction cs using List.reverseRecOn with
  | nil => exact Nat.one_pos
  | append_singleton cs c ih =>
    have hcs := ih fun d hd => h d (List.mem_append_left _ hd)
    have hc : c.toNat - 48 ≤ 9 := by
      have hdigit := h c (List.mem_append_right _ List.mem_cons_self)
      simp only [Char.isDigit, ge_iff_le, Bool.and_eq_true, decide_eq_true_eq,
        UInt32.le_iff_toNat_le] at hdigit
      have hle : c.toNat ≤ 57 := hdigit.2
      omega
    rw [natOfDigits_append_singleton, List.length_append, List.length_singleton, Nat.pow_succ]
    omega

end Number

theorem plainText_padded (width n : Nat) : PlainText (padded width n) :=
  fun c hc => isPlain_of_isDigit (isDigit_of_mem_padded c hc)

namespace Time

open Text

/-- A number of a fixed width is read, and nothing of what follows. -/
theorem fixedDigits_padded {width n : Nat} (hwidth : 0 < width) (h : n < 10 ^ width)
    (rest : List Char) : fixedDigits width (padded width n ++ rest) = some (n, rest) := by
  have hlength := length_padded hwidth h
  have htake : (padded width n ++ rest).take width = padded width n := List.take_left' hlength
  have hdrop : (padded width n ++ rest).drop width = rest := List.drop_left' hlength
  have hall : (padded width n).all Char.isDigit = true := List.all_eq_true.2 isDigit_of_mem_padded
  simp only [fixedDigits, htake, hdrop, hlength, hall, natOfDigits_padded, and_self, if_true]

/-! ## Dates and times -/

/-- A date and a time in dashed form, with more after the seconds. -/
def dashed (year month day hour minute second : Nat) (rest : List Char) : List Char :=
  padded 4 year ++ '-' :: (padded 2 month ++ '-' :: (padded 2 day ++ 'T' ::
    (padded 2 hour ++ ':' :: (padded 2 minute ++ ':' :: (padded 2 second ++ rest)))))

section

variable {year month day hour minute second : Nat}

theorem bind_of_eq_some {α β : Type} {o : Option α} {a : α} {f : α → Option β} (h : o = some a) :
    (o >>= f) = f a := by
  rw [h]
  rfl

/-- A date and a time in dashed form are read with the offset that follows, and only with one. -/
theorem readWithOffset?_dashed {rest : List Char} (hyear : year < 10000)
    (hmonth : month < 100) (hday : day < 100) (hhour : hour < 100) (hminute : minute < 100)
    (hsecond : second < 100) (hfraction : fractionOf rest = some (0, rest)) :
    readWithOffset? (dashed year month day hour minute second rest) =
      (offset? rest).bind fun (offset, cs) =>
        if cs.isEmpty then Fields.instant? ⟨⟨year, month, day⟩, hour, minute, second, 0, offset⟩
        else none := by
  have hafter : ∀ (c : Char) (cs : List Char), after c (c :: cs) = some cs :=
    fun c cs => if_pos rfl
  have hfour : ∀ {n : Nat} (h : n < 10000) (cs : List Char),
      fixedDigits 4 (padded 4 n ++ cs) = some (n, cs) :=
    fun h cs => fixedDigits_padded (by decide) h cs
  have htwo : ∀ {n : Nat} (h : n < 100) (cs : List Char),
      fixedDigits 2 (padded 2 n ++ cs) = some (n, cs) :=
    fun h cs => fixedDigits_padded (by decide) h cs
  have hmark : ∀ {cs : List Char}, (after 'T' ('T' :: cs)).or
      ((after 't' ('T' :: cs)).or (after ' ' ('T' :: cs))) = some cs := rfl
  refine (bind_of_eq_some (hfour hyear _)).trans ?_
  refine (bind_of_eq_some (hafter _ _)).trans ?_
  refine (bind_of_eq_some (htwo hmonth _)).trans ?_
  refine (bind_of_eq_some (hafter _ _)).trans ?_
  refine (bind_of_eq_some (htwo hday _)).trans ?_
  refine (bind_of_eq_some hmark).trans ?_
  refine (bind_of_eq_some (htwo hhour _)).trans ?_
  refine (bind_of_eq_some (hafter _ _)).trans ?_
  refine (bind_of_eq_some (htwo hminute _)).trans ?_
  refine (bind_of_eq_some (hafter _ _)).trans ?_
  refine (bind_of_eq_some (htwo hsecond _)).trans ?_
  exact bind_of_eq_some hfraction

/-- A compact date gets its dashes. -/
theorem withDashes_compact (hyear : year < 10000) (hmonth : month < 100) (hday : day < 100)
    (rest : List Char) :
    withDashes (padded 4 year ++ padded 2 month ++ padded 2 day ++ 'T' :: rest) =
      padded 4 year ++ '-' :: (padded 2 month ++ '-' :: (padded 2 day ++ 'T' :: rest)) := by
  have hy : (padded 4 year).length = 4 := length_padded (by decide) hyear
  have hm : (padded 2 month).length = 2 := length_padded (by decide) hmonth
  have hd : (padded 2 day).length = 2 := length_padded (by decide) hday
  have hdate : (padded 4 year ++ padded 2 month ++ padded 2 day).length = 8 := by
    simp only [List.length_append, hy, hm, hd]
  have hdigits : (padded 4 year ++ padded 2 month ++ padded 2 day).all Char.isDigit = true := by
    simp only [List.all_append, List.all_eq_true.2 isDigit_of_mem_padded, Bool.and_self]
  have hmark : (padded 4 year ++ padded 2 month ++ padded 2 day ++ 'T' :: rest)[8]? =
      some 'T' := by
    rw [List.getElem?_append_right (by omega), hdate]
    rfl
  have htake : (padded 4 year ++ padded 2 month ++ padded 2 day ++ 'T' :: rest).take 8 =
      padded 4 year ++ padded 2 month ++ padded 2 day := List.take_left' hdate
  have hparts : padded 4 year ++ padded 2 month ++ padded 2 day ++ 'T' :: rest =
      padded 4 year ++ (padded 2 month ++ (padded 2 day ++ 'T' :: rest)) := by
    simp only [List.append_assoc]
  have hdrop : (padded 4 year ++ (padded 2 month ++ (padded 2 day ++ 'T' :: rest))).drop 6 =
      padded 2 day ++ 'T' :: rest := by
    rw [← List.append_assoc]
    exact List.drop_left' (by rw [List.length_append, hy, hm])
  rw [withDashes, htake, if_pos ⟨hdigits, hmark⟩, hparts, List.take_left' hy, List.drop_left' hy,
    List.take_left' hm, hdrop]
  simp only [List.append_assoc, List.cons_append, List.nil_append]

end

/-! ## What is written -/

/-- The year of an instant in universal time. -/
def Instant.year (t : Instant) : Int :=
  (Date.ofDayNumber (t.seconds / 86400)).year

/-- The year of an instant is written in four digits, without a sign. -/
def Instant.FourDigitYear (t : Instant) : Prop :=
  0 ≤ t.year ∧ t.year ≤ 9999

instance (t : Instant) : Decidable t.FourDigitYear :=
  inferInstanceAs (Decidable (_ ∧ _))

theorem Instant.fourDigitYear_iff {t : Instant} :
    t.FourDigitYear ↔ -62167219200 ≤ t.seconds ∧ t.seconds ≤ 253402300799 := by
  obtain ⟨hlow, hhigh⟩ := year_ofDayNumber (t.seconds / 86400)
  rw [FourDigitYear, year, hlow, hhigh]
  omega

/-- The nanoseconds make less than a second, or a leap second and less than another after a
second 59. -/
def Instant.Proper (t : Instant) : Prop :=
  t.nanos < 1000000000 ∨ (t.seconds % 60 = 59 ∧ t.nanos < 2000000000)

/-- The second in which an instant lies, be it a leap second. -/
def Instant.toSecond (t : Instant) : Instant :=
  ⟨t.seconds, t.nanos / 1000000000 * 1000000000⟩

theorem Instant.toSecond_of_nanos {t : Instant} (h : t.nanos = 0) : t.toSecond = t := by
  rw [toSecond, h, Nat.zero_div, Nat.zero_mul, ← h]

/-- The fields that are written for an instant denote its second. -/
theorem instant?_ofDayNumber {t : Instant} (hyear : t.FourDigitYear) (hproper : t.Proper) :
    Fields.instant? ⟨Date.ofDayNumber (t.seconds / 86400),
      (t.seconds % 86400).toNat / 3600, (t.seconds % 86400).toNat / 60 % 60,
      (t.seconds % 86400).toNat % 60 + t.nanos / 1000000000, 0, 0⟩ = some t.toSecond := by
  obtain ⟨hfirst, hlast⟩ : 0 ≤ (Date.ofDayNumber (t.seconds / 86400)).year ∧
    (Date.ofDayNumber (t.seconds / 86400)).year ≤ 9999 := hyear
  have hexists := exists?_ofDayNumber (t.seconds / 86400)
  have hday := dayNumber_ofDayNumber (t.seconds / 86400)
  -- A leap second comes after a second 59 only.
  have hleap : t.nanos / 1000000000 = 0 ∨
      (t.nanos / 1000000000 = 1 ∧ (t.seconds % 86400).toNat % 60 = 59) := by
    rcases hproper with h | ⟨hsecond, h⟩ <;> omega
  unfold Fields.instant?
  rw [if_pos ⟨hexists, by simp only; omega, by simp only; omega, by simp only; omega,
    by simp only; omega, by simp only; omega⟩]
  simp only [hday, Instant.toSecond, Option.some.injEq, Instant.mk.injEq]
  rcases hleap with hzero | ⟨hone, hsecond⟩
  · have hsixty : (t.seconds % 86400).toNat % 60 ≠ 60 := by omega
    rw [hzero, Nat.add_zero, if_neg hsixty]
    omega
  · rw [hone, hsecond, if_pos rfl]
    omega

/-- The text of an instant, taken apart. -/
theorem toList_text (t : Instant) :
    t.text.toList = yearText t.year ++ padded 2 (Date.ofDayNumber (t.seconds / 86400)).month ++
      padded 2 (Date.ofDayNumber (t.seconds / 86400)).day ++
      'T' :: (padded 2 ((t.seconds % 86400).toNat / 3600) ++
        ':' :: (padded 2 ((t.seconds % 86400).toNat / 60 % 60) ++
          ':' :: (padded 2 ((t.seconds % 86400).toNat % 60 + t.nanos / 1000000000) ++ ['Z']))) := by
  simp only [Instant.text, Instant.year, String.toList_ofList, List.append_assoc, List.cons_append,
    List.nil_append]

theorem plainText_yearText (year : Int) : PlainText (yearText year) := by
  unfold yearText
  split
  · exact plainText_padded _ _
  · refine .cons ?_ (plainText_padded _ _)
    split <;> rfl

theorem plainText_text (t : Instant) : PlainText t.text.toList := by
  have hpadded := plainText_padded
  rw [toList_text]
  exact .append (.append (.append (plainText_yearText _) (hpadded _ _)) (hpadded _ _))
    (.cons rfl (.append (hpadded _ _) (.cons rfl (.append (hpadded _ _) (.cons rfl
      (.append (hpadded _ _) (.cons rfl .nil)))))))

/-! ### Years of four digits -/

/-- An instant that is written with a year of four digits reads back to the second. -/
theorem read?_text {t : Instant} (hyear : t.FourDigitYear) (hproper : t.Proper) :
    Instant.read? t.text = some t.toSecond := by
  obtain ⟨hfirst, hlast⟩ := hyear
  have hexists := exists?_ofDayNumber (t.seconds / 86400)
  simp only [Date.exists?, Bool.and_eq_true, decide_eq_true_eq] at hexists
  have hmonth : (Date.ofDayNumber (t.seconds / 86400)).month < 100 := by omega
  have hday : (Date.ofDayNumber (t.seconds / 86400)).day < 100 := by
    have := daysInMonth_le (Date.ofDayNumber (t.seconds / 86400)).year
      (Date.ofDayNumber (t.seconds / 86400)).month
    omega
  have hsecond : (t.seconds % 86400).toNat % 60 + t.nanos / 1000000000 < 100 := by
    rcases hproper with h | ⟨-, h⟩ <;> omega
  have hdate : (⟨(t.year.natAbs : Int), (Date.ofDayNumber (t.seconds / 86400)).month,
      (Date.ofDayNumber (t.seconds / 86400)).day⟩ : Date) =
        Date.ofDayNumber (t.seconds / 86400) := by
    rw [Int.natAbs_of_nonneg hfirst]
    rfl
  have htext : yearText t.year = padded 4 t.year.natAbs := if_pos ⟨hfirst, hlast⟩
  have hread : readWithOffset? (dashed t.year.natAbs
      (Date.ofDayNumber (t.seconds / 86400)).month (Date.ofDayNumber (t.seconds / 86400)).day
      ((t.seconds % 86400).toNat / 3600) ((t.seconds % 86400).toNat / 60 % 60)
      ((t.seconds % 86400).toNat % 60 + t.nanos / 1000000000) ['Z']) = some t.toSecond := by
    rw [readWithOffset?_dashed (by omega) hmonth hday (by omega) (by omega) hsecond rfl, hdate]
    exact instant?_ofDayNumber ⟨hfirst, hlast⟩ hproper
  rw [Instant.read?, (plainText_text t).trim_eq, toList_text, htext,
    withDashes_compact (by omega) hmonth hday]
  rw [dashed] at hread
  rw [hread, Option.some_or]

/-! ### Other years -/

/-- What stands before a character that stays is not dropped. -/
theorem dropEndWhile_append_cons {p : Char → Bool} {c : Char} (hc : p c = false)
    (front rest : List Char) :
    dropEndWhile p (front ++ c :: rest) = front ++ c :: dropEndWhile p rest := by
  have hreverse : (front ++ c :: rest).reverse = rest.reverse ++ c :: front.reverse := by simp
  rw [dropEndWhile, dropEndWhile, hreverse, List.dropWhile_append]
  split
  · rename_i hall
    rw [List.isEmpty_iff.1 hall, List.dropWhile_cons_of_neg (by simp [hc])]
    simp
  · simp

section

variable {sign : Char} {ds : List Char} (hsign : sign = '-' ∨ sign = '+')
  (hds : ∀ c ∈ ds, c.isDigit = true) (rest : List Char)

include hsign in
theorem withDashes_signed (cs : List Char) : withDashes (sign :: cs) = sign :: cs := by
  refine if_neg fun h => ?_
  rcases hsign with rfl | rfl <;> cases h.1

include hsign in
theorem readWithOffset?_signed (cs : List Char) : readWithOffset? (sign :: cs) = none := by
  have hyear : fixedDigits 4 (sign :: cs) = none := by
    refine if_neg fun h => ?_
    rcases hsign with rfl | rfl <;> cases h.2
  rw [readWithOffset?, hyear]
  rfl

include hsign hds in
/-- The digits after a sign are the year, all of them, and then there is no dash. -/
theorem readPlain?_signed : readPlain? (sign :: (ds ++ 'T' :: rest)) = none := by
  have hrest : (ds ++ 'T' :: rest).dropWhile Char.isDigit = 'T' :: rest :=
    List.dropWhile_append_of_pos hds
  have hsigned : ∀ f, (year?.signed (ds ++ 'T' :: rest) f).bind (fun r => after '-' r.2) = none := by
    intro f
    simp only [year?.signed, hrest]
    split <;> rfl
  have hyear : ∃ f, year? (sign :: (ds ++ 'T' :: rest)) = year?.signed (ds ++ 'T' :: rest) f := by
    rcases hsign with rfl | rfl
    · exact ⟨fun n => -(n : Int), rfl⟩
    · exact ⟨fun n => n, rfl⟩
  obtain ⟨f, hyear⟩ := hyear
  have hsigned := hsigned f
  rw [readPlain?, hyear]
  cases hread : year?.signed (ds ++ 'T' :: rest) f with
  | none => rfl
  | some r =>
    rw [hread, Option.bind_some] at hsigned
    simp only [Option.bind_eq_bind, Option.bind_some, hsigned, Option.bind_none]

include hsign hds in
/-- A compact date with a sign in front of the year is no date. -/
theorem read?_signed {text : String} (htext : text.toList = sign :: (ds ++ 'T' :: rest))
    (hplain : PlainText text.toList) : Instant.read? text = none := by
  have hend : dropEndWhile (· == 'Z') (sign :: (ds ++ 'T' :: rest)) =
      sign :: (ds ++ 'T' :: dropEndWhile (· == 'Z') rest) :=
    dropEndWhile_append_cons rfl (sign :: ds) rest
  rw [Instant.read?, hplain.trim_eq, htext, withDashes_signed hsign, readWithOffset?_signed hsign,
    hend, readPlain?_signed hsign hds]
  rfl

end

/-- An instant that is written with a sign in front of the year does not read back. -/
theorem read?_text_eq_none {t : Instant} (h : ¬t.FourDigitYear) : Instant.read? t.text = none := by
  have hyear : yearText t.year =
      (if t.year < 0 then '-' else '+') :: padded 4 t.year.natAbs := if_neg h
  have hsign : (if t.year < 0 then '-' else '+') = '-' ∨ (if t.year < 0 then '-' else '+') = '+' := by
    split
    · exact .inl rfl
    · exact .inr rfl
  have htext : ∃ rest, t.text.toList = (if t.year < 0 then '-' else '+') ::
      (padded 4 t.year.natAbs ++ padded 2 (Date.ofDayNumber (t.seconds / 86400)).month ++
        padded 2 (Date.ofDayNumber (t.seconds / 86400)).day ++ 'T' :: rest) := by
    rw [toList_text, hyear]
    exact ⟨_, rfl⟩
  obtain ⟨rest, htext⟩ := htext
  refine read?_signed hsign (fun c hc => ?_) rest htext (plainText_text t)
  rcases List.mem_append.1 hc with hc | hc
  · rcases List.mem_append.1 hc with hc | hc
    · exact isDigit_of_mem_padded c hc
    · exact isDigit_of_mem_padded c hc
  · exact isDigit_of_mem_padded c hc

/-! ## What is read -/

theorem fractionOf_lt {cs rest : List Char} {nanos : Nat} (h : fractionOf cs = some (nanos, rest)) :
    nanos < 1000000000 := by
  unfold fractionOf at h
  split at h
  · rename_i digits
    simp only at h
    split at h
    · cases h
    · cases h
      have hdigits : ∀ c ∈ (digits.takeWhile Char.isDigit).take 9, c.isDigit = true :=
        fun c hc => List.all_eq_true.1 List.all_takeWhile c (List.mem_of_mem_take hc)
      have hlt := natOfDigits_lt hdigits
      have hlength : ((digits.takeWhile Char.isDigit).take 9).length +
          (9 - (digits.takeWhile Char.isDigit).length) = 9 := by
        rw [List.length_take]
        omega
      calc natOfDigits ((digits.takeWhile Char.isDigit).take 9) *
              10 ^ (9 - (digits.takeWhile Char.isDigit).length)
          < 10 ^ ((digits.takeWhile Char.isDigit).take 9).length *
              10 ^ (9 - (digits.takeWhile Char.isDigit).length) :=
            Nat.mul_lt_mul_of_pos_right hlt (Nat.pow_pos (by decide))
        _ = 1000000000 := by rw [← Nat.pow_add, hlength]
  · cases h
    decide

/-- Offsets are whole minutes. -/
theorem offset?_emod {cs rest : List Char} {offset : Int} (h : offset? cs = some (offset, rest)) :
    offset % 60 = 0 := by
  unfold offset? at h
  split at h
  · cases h
    rfl
  · cases h
    rfl
  · split at h
    · simp only [Option.bind_eq_bind, Option.bind_eq_some_iff] at h
      obtain ⟨⟨hours, _⟩, -, _, -, ⟨minutes, _⟩, -, h⟩ := h
      split at h
      · cases h
        split <;> omega
      · cases h
    · cases h
  · cases h

theorem Fields.proper_instant? {f : Fields} {t : Instant} (hnanos : f.nanos < 1000000000)
    (hoffset : f.offset % 60 = 0) (h : f.instant? = some t) : t.Proper := by
  unfold Fields.instant? at h
  split at h
  · simp only [Option.some.injEq] at h
    subst h
    unfold Instant.Proper
    by_cases hleap : f.second = 60
    · right
      rw [if_pos hleap]
      simp only
      omega
    · left
      rw [if_neg hleap]
      exact hnanos
  · cases h

theorem proper_of_readWithOffset? {cs : List Char} {t : Instant}
    (h : readWithOffset? cs = some t) : t.Proper := by
  simp only [readWithOffset?, Option.bind_eq_bind, Option.bind_eq_some_iff] at h
  obtain ⟨_, -, _, -, _, -, _, -, _, -, _, -, _, -, _, -, _, -, _, -, _, -, ⟨nanos, _⟩, hnanos,
    ⟨offset, _⟩, hoffset, h⟩ := h
  split at h
  · exact Fields.proper_instant? (fractionOf_lt hnanos) (offset?_emod hoffset) h
  · cases h

theorem proper_of_readPlain? {cs : List Char} {t : Instant} (h : readPlain? cs = some t) :
    t.Proper := by
  simp only [readPlain?, Option.bind_eq_bind, Option.bind_eq_some_iff] at h
  obtain ⟨_, -, _, -, _, -, _, -, _, -, _, -, _, -, _, -, _, -, _, -, _, -, ⟨nanos, _⟩, hnanos, h⟩ := h
  split at h
  · exact Fields.proper_instant? (fractionOf_lt hnanos) rfl h
  · cases h

/-- An instant that is read is a proper one. -/
theorem Instant.proper_of_read? {text : String} {t : Instant} (h : Instant.read? text = some t) :
    t.Proper := by
  rw [Instant.read?, Option.or_eq_some_iff] at h
  rcases h with h | ⟨-, h⟩
  · exact proper_of_readWithOffset? h
  · exact proper_of_readPlain? h

end Time

end PoolClient
