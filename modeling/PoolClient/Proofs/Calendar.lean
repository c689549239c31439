import PoolClient.Time.Calendar
/-!
# Days and dates

Every day has a date that exists (`exists?_ofDayNumber`), and the day of that date is the day it
was taken from (`dayNumber_ofDayNumber`). A day lies in a cycle of 400 years, in one of its years
and in a month of that year; `ofDayNumber_eq` is this decomposition.
-/

namespace PoolClient.Time

/-! ## Years of a cycle -/

/-- The days of a cycle before its year `y`. Years begin in March. -/
def daysBefore (y : Nat) : Nat :=
  365 * y + y / 4 - y / 100

/-- The year of a cycle in which its day `n` lies. -/
def yearOf (n : Nat) : Nat :=
  (n - n / 1460 + n / 36524 - n / 146096) / 365

theorem yearOf_mono {m n : Nat} (h : m ≤ n) : yearOf m ≤ yearOf n := by
  have hstep : ∀ n : Nat, n - n / 1460 + n / 36524 - n / 146096 ≤
      n + 1 - (n + 1) / 1460 + (n + 1) / 36524 - (n + 1) / 146096 := by omega
  induction h with
  | refl => exact Nat.le_refl _
  | step h ih => exact Nat.le_trans ih (Nat.div_le_div_right (hstep _))

/-- The first and the last day of a year lie in it. -/
theorem yearOf_ends {y : Nat} (h : y < 400) :
    yearOf (daysBefore y) = y ∧ yearOf (daysBefore (y + 1) - 1) = y := by
  have : ∀ y : Fin 400, yearOf (daysBefore y) = y ∧ yearOf (daysBefore (y + 1) - 1) = y := by
    decide +kernel
  exact this ⟨y, h⟩

theorem yearOf_lt {n : Nat} (h : n < 146097) : yearOf n < 400 := by
  have hlast : yearOf 146096 = 399 := rfl
  have hle : yearOf n ≤ yearOf 146096 := yearOf_mono (by omega)
  omega

theorem daysBefore_yearOf_le {n : Nat} (h : n < 146097) : daysBefore (yearOf n) ≤ n := by
  have hlt := yearOf_lt h
  refine Nat.le_of_not_lt fun hn => ?_
  cases hy : yearOf n with
  | zero =>
    rw [hy] at hn
    exact absurd hn (Nat.not_lt_zero n)
  | succ y =>
    rw [hy] at hn hlt
    have hle : yearOf n ≤ yearOf (daysBefore (y + 1) - 1) := yearOf_mono (by omega)
    have hend := (yearOf_ends (y := y) (by omega)).2
    omega

theorem lt_daysBefore_succ_yearOf {n : Nat} (h : n < 146096) :
    n < daysBefore (yearOf n + 1) := by
  have hlt : yearOf n < 400 := yearOf_lt (by omega)
  refine Nat.lt_of_not_le fun hn => ?_
  by_cases hy : yearOf n + 1 < 400
  · have hle := yearOf_mono hn
    have hstart := (yearOf_ends hy).1
    omega
  · have hcycle : daysBefore 400 = 146096 := rfl
    rw [show yearOf n + 1 = 400 by omega] at hn
    omega

/-- A year has 365 days, and one more if the February at its end is long. -/
theorem dayOfYear_le {n : Nat} (h : n < 146097) :
    n - daysBefore (yearOf n) ≤ 365 ∧
      (n - daysBefore (yearOf n) = 365 → isLeapYear (yearOf n + 1 : Nat) = true) := by
  by_cases hlast : n = 146096
  · subst hlast
    decide +kernel
  · have hlow := daysBefore_yearOf_le h
    have hhigh := lt_daysBefore_succ_yearOf (n := n) (by omega)
    unfold daysBefore at hlow hhigh ⊢
    generalize yearOf n = y at hlow hhigh ⊢
    refine ⟨by omega, fun heq => ?_⟩
    have hlong : y / 4 + (y + 1) / 100 < (y + 1) / 4 + y / 100 := by omega
    clear hlow hhigh heq h hlast
    simp only [isLeapYear, Bool.or_eq_true, Bool.and_eq_true, beq_iff_eq, bne_iff_ne]
    omega

/-! ## Months of a year -/

/-- The month in which the day `n` of a year lies, counted from March. -/
def monthOf (n : Nat) : Nat :=
  (5 * n + 2) / 153

/-- The days of a year before its month `m`. -/
def daysBeforeMonth (m : Nat) : Nat :=
  (153 * m + 2) / 5

/-- The usual number of a month that is counted from March. -/
def usualMonth (m : Nat) : Nat :=
  if m < 10 then m + 3 else m - 9

theorem usualMonth_spec {m : Nat} (h : m ≤ 11) : 1 ≤ usualMonth m ∧ usualMonth m ≤ 12 ∧
    (if usualMonth m ≤ 2 then usualMonth m + 9 else usualMonth m - 3) = m ∧
    (usualMonth m ≤ 2 ↔ 10 ≤ m) := by
  unfold usualMonth
  split <;> refine ⟨?_, ?_, ?_, ?_⟩ <;> (try split) <;> omega

/-- The day of a year lies in its month, also in a year with a short February unless it is the
last of a long one. -/
theorem monthOf_spec {n : Nat} (h : n ≤ 365) :
    monthOf n ≤ 11 ∧ daysBeforeMonth (monthOf n) ≤ n ∧
      n - daysBeforeMonth (monthOf n) + 1 ≤ daysInMonth 4 (usualMonth (monthOf n)) ∧
      (n < 365 → n - daysBeforeMonth (monthOf n) + 1 ≤
        daysInMonth 1 (usualMonth (monthOf n))) := by
  have : ∀ n : Fin 366, monthOf n ≤ 11 ∧ daysBeforeMonth (monthOf n) ≤ n ∧
      n - daysBeforeMonth (monthOf n) + 1 ≤ daysInMonth 4 (usualMonth (monthOf n)) ∧
      (n.val < 365 → n - daysBeforeMonth (monthOf n) + 1 ≤
        daysInMonth 1 (usualMonth (monthOf n))) := by
    decide +kernel
  exact this ⟨n, by omega⟩

theorem daysInMonth_of_leap {year : Int} (h : isLeapYear year = true) (month : Nat) :
    daysInMonth year month = daysInMonth 4 month := by
  have hfour : isLeapYear 4 = true := rfl
  simp only [daysInMonth, h, hfour]

theorem daysInMonth_one_le (year : Int) (month : Nat) :
    daysInMonth 1 month ≤ daysInMonth year month := by
  have hone : isLeapYear 1 = false := rfl
  simp only [daysInMonth, hone]
  split
  · rw [if_neg (by decide)]
    split <;> decide
  · exact Nat.le_refl _

theorem daysInMonth_le (year : Int) (month : Nat) : daysInMonth year month ≤ 31 := by
  unfold daysInMonth
  split <;> (try split) <;> omega

/-! ## Dates -/

/-- The date of the day `d` of the year `y` of a cycle. -/
def dateIn (cycle : Int) (y d : Nat) : Date :=
  let month := usualMonth (monthOf d)
  let year := (y : Int) + cycle * 400
  ⟨if month ≤ 2 then year + 1 else year, month, d - daysBeforeMonth (monthOf d) + 1⟩

/-- Every day lies in a cycle, in a year of the cycle, and has a place in that year. -/
theorem ofDayNumber_eq (n : Int) : ∃ (cycle : Int) (y d : Nat),
    n + 719468 = cycle * 146097 + (daysBefore y + d : Nat) ∧ y < 400 ∧ d ≤ 365 ∧
      (d = 365 → isLeapYear (y + 1 : Nat) = true) ∧ Date.ofDayNumber n = dateIn cycle y d := by
  have hday : ((n + 719468) % 146097).toNat < 146097 := by omega
  obtain ⟨hle, hleap⟩ := dayOfYear_le hday
  have hlow := daysBefore_yearOf_le hday
  refine ⟨(n + 719468) / 146097, yearOf ((n + 719468) % 146097).toNat,
    ((n + 719468) % 146097).toNat - daysBefore (yearOf ((n + 719468) % 146097).toNat), ?_,
    yearOf_lt hday, hle, hleap, rfl⟩
  rw [Nat.add_sub_of_le hlow]
  omega

/-- Leap years repeat with the cycle. -/
theorem isLeapYear_add_cycle (year cycle : Int) :
    isLeapYear (year + cycle * 400) = isLeapYear year := by
  have hfour : (year + cycle * 400) % 4 = year % 4 := by omega
  have hhundred : (year + cycle * 400) % 100 = year % 100 := by omega
  have hcycle : (year + cycle * 400) % 400 = year % 400 := by omega
  rw [isLeapYear, isLeapYear, hfour, hhundred, hcycle]

theorem exists?_dateIn {cycle : Int} {y d : Nat} (hd : d ≤ 365)
    (hleap : d = 365 → isLeapYear (y + 1 : Nat) = true) : (dateIn cycle y d).exists? = true := by
  obtain ⟨hmonth, -, hlong, hshort⟩ := monthOf_spec hd
  obtain ⟨hlow, hhigh, -, hturn⟩ := usualMonth_spec hmonth
  have hday : (dateIn cycle y d).day ≤
      daysInMonth (dateIn cycle y d).year (dateIn cycle y d).month := by
    by_cases hlast : d = 365
    · have hfebruary : usualMonth (monthOf d) ≤ 2 := by
        subst hlast
        decide
      have hyear : isLeapYear (dateIn cycle y d).year = true := by
        rw [dateIn, if_pos hfebruary, Int.add_right_comm, isLeapYear_add_cycle]
        exact hleap hlast
      rw [daysInMonth_of_leap hyear]
      exact hlong
    · exact Nat.le_trans (hshort (by omega)) (daysInMonth_one_le _ _)
  simp only [Date.exists?, Bool.and_eq_true, decide_eq_true_eq]
  exact ⟨⟨⟨hlow, hhigh⟩, Nat.le_add_left 1 _⟩, hday⟩

theorem dayNumber_dateIn {cycle : Int} {y d : Nat} (hy : y < 400) (hd : d ≤ 365) :
    (dateIn cycle y d).dayNumber = cycle * 146097 + (daysBefore y + d : Nat) - 719468 := by
  obtain ⟨hmonth, hbefore, -, -⟩ := monthOf_spec hd
  obtain ⟨-, -, hmarch, -⟩ := usualMonth_spec hmonth
  have hyear : (if (dateIn cycle y d).month ≤ 2 then (dateIn cycle y d).year - 1
      else (dateIn cycle y d).year) = (y : Int) + cycle * 400 := by
    unfold dateIn
    simp only
    split <;> omega
  have hcycle : ((y : Int) + cycle * 400) / 400 = cycle := by omega
  have hyearOfCycle : (((y : Int) + cycle * 400) % 400).toNat = y := by omega
  have hdayOfYear : (153 * monthOf d + 2) / 5 + (dateIn cycle y d).day - 1 = d := by
    have hday : (dateIn cycle y d).day = d - daysBeforeMonth (monthOf d) + 1 := rfl
    rw [hday]
    unfold daysBeforeMonth at hbefore ⊢
    omega
  have hmarch' : (if (dateIn cycle y d).month ≤ 2 then (dateIn cycle y d).month + 9
      else (dateIn cycle y d).month - 3) = monthOf d := hmarch
  simp only [Date.dayNumber, hyear, hcycle, hyearOfCycle, hmarch', hdayOfYear]
  unfold daysBefore
  omega

/-- The date of a day exists. -/
theorem exists?_ofDayNumber (n : Int) : (Date.ofDayNumber n).exists? = true := by
  obtain ⟨cycle, y, d, -, -, hd, hleap, heq⟩ := ofDayNumber_eq n
  rw [heq]
  exact exists?_dateIn hd hleap

/-- The day of the date of a day is that day. -/
theorem dayNumber_ofDayNumber (n : Int) : (Date.ofDayNumber n).dayNumber = n := by
  obtain ⟨cycle, y, d, hn, hy, hd, -, heq⟩ := ofDayNumber_eq n
  rw [heq, dayNumber_dateIn hy hd]
  omega

/-- The year of a day begins with the eleventh month from March, January. -/
theorem year_ofDayNumber_eq (n : Int) : ∃ (cycle : Int) (y d : Nat),
    n + 719468 = cycle * 146097 + (daysBefore y + d : Nat) ∧ y < 400 ∧ d ≤ 365 ∧
      (Date.ofDayNumber n).year =
        if 10 ≤ monthOf d then (y : Int) + cycle * 400 + 1 else (y : Int) + cycle * 400 := by
  obtain ⟨cycle, y, d, hn, hy, hd, -, heq⟩ := ofDayNumber_eq n
  obtain ⟨hmonth, -, -, -⟩ := monthOf_spec hd
  obtain ⟨-, -, -, hturn⟩ := usualMonth_spec hmonth
  refine ⟨cycle, y, d, hn, hy, hd, ?_⟩
  rw [heq, dateIn]
  simp only [hturn]

/-- The years of four digits are those of the days from 0000-01-01 to 9999-12-31. -/
theorem year_ofDayNumber (n : Int) :
    (0 ≤ (Date.ofDayNumber n).year ↔ -719528 ≤ n) ∧
      ((Date.ofDayNumber n).year ≤ 9999 ↔ n ≤ 2932896) := by
  obtain ⟨cycle, y, d, hn, hy, hd, hyear⟩ := year_ofDayNumber_eq n
  rw [hyear]
  unfold daysBefore at hn
  unfold monthOf
  split <;> constructor <;> omega

/-- The years after the year zero are those of the days from 0001-01-01 on. -/
theorem year_ofDayNumber_pos (n : Int) : 1 ≤ (Date.ofDayNumber n).year ↔ -719162 ≤ n := by
  obtain ⟨cycle, y, d, hn, hy, hd, hyear⟩ := year_ofDayNumber_eq n
  rw [hyear]
  unfold daysBefore at hn
  unfold monthOf
  split <;> omega

end PoolClient.Time
