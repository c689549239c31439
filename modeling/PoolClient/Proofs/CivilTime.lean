import Mathlib.Algebra.BigOperators.Intervals
import Mathlib.Algebra.Order.BigOperators.Group.Finset
import PoolClient.Proofs.Calendar
import PoolClient.Time.Instant
/-!
# Time counted on the calendar

A `CivilTime` is a date of the years 1 to 9999 with a time of day. Its seconds are counted by adding
up the years, the months and the days before it (`CivilTime.seconds`). Each second of those years is
counted by just one civil time (`CivilTime.existsUnique_seconds`). The day of a date is its count of days
(`dayNumber_eq`).
-/

namespace PoolClient.Time

open Finset

/-! ## Counting -/

/-- The number of days of a year. -/
def daysInYear (year : Nat) : Nat :=
  if isLeapYear year then 366 else 365

/-- The days of a year before a date in it. -/
def daysOfYear (year month day : Nat) : Nat :=
  ∑ m ∈ Ico 1 month, daysInMonth year m + (day - 1)

/-- The days from 0001-01-01 to a date. -/
def daysSinceFirst (year month day : Nat) : Nat :=
  ∑ y ∈ Ico 1 year, daysInYear y + daysOfYear year month day

/-- A date on the calendar, of the years 1 to 9999, and a time of day. -/
@[ext]
structure CivilTime where
  year : Nat
  month : Nat
  day : Nat
  hour : Nat
  minute : Nat
  second : Nat
  year_mem : 1 ≤ year ∧ year ≤ 9999
  month_mem : 1 ≤ month ∧ month ≤ 12
  day_mem : 1 ≤ day ∧ day ≤ daysInMonth year month
  hour_le : hour ≤ 23
  minute_le : minute ≤ 59
  second_le : second ≤ 59

/-- The seconds of a day before a time of day. -/
def CivilTime.secondOfDay (c : CivilTime) : Nat :=
  3600 * c.hour + 60 * c.minute + c.second

/-- The seconds from 1970-01-01T00:00:00 to a civil time, counted from 0001-01-01T00:00:00. -/
def CivilTime.seconds (c : CivilTime) : Int :=
  Instant.zero.seconds + (86400 * daysSinceFirst c.year c.month c.day + c.secondOfDay : Nat)

/-! ## Days -/

theorem isLeapYear_iff {y : Nat} :
    isLeapYear y = true ↔ (y % 4 = 0 ∧ y % 100 ≠ 0) ∨ y % 400 = 0 := by
  simp only [isLeapYear, Bool.or_eq_true, Bool.and_eq_true, beq_iff_eq, bne_iff_ne]
  omega

/-- A leap day comes every four years, but only every fourth time at the turn of a century. -/
theorem sum_daysInYear (k : Nat) :
    ∑ y ∈ Ico 1 (k + 1), daysInYear y = 365 * k + k / 4 - k / 100 + k / 400 := by
  induction k with
  | zero => rfl
  | succ k ih =>
    rw [sum_Ico_succ_top (by omega), ih, daysInYear]
    simp only [isLeapYear_iff]
    split <;> omega

theorem daysInMonth_of_not_leap {year : Int} (h : isLeapYear year = false) (month : Nat) :
    daysInMonth year month = daysInMonth 1 month := by
  have hone : isLeapYear 1 = false := rfl
  simp only [daysInMonth, h, hone]

/-- From March on, five months have 153 days. -/
theorem sum_daysInMonth {year : Int} {month : Nat} (hlow : 1 ≤ month) (hhigh : month ≤ 13) :
    ∑ m ∈ Ico 1 month, daysInMonth year m =
      if month ≤ 2 then 31 * (month - 1)
      else (153 * (month - 3) + 2) / 5 + if isLeapYear year then 60 else 59 := by
  -- The lengths of the months are those of the year 4 or of the year 1.
  cases hleap : isLeapYear year with
  | true =>
    have : ∀ month : Fin 14, 1 ≤ month.val → ∑ m ∈ Ico 1 month.val, daysInMonth 4 m =
        if month.val ≤ 2 then 31 * (month.val - 1) else (153 * (month.val - 3) + 2) / 5 + 60 := by
      decide
    simp only [daysInMonth_of_leap hleap, if_true]
    exact this ⟨month, by omega⟩ hlow
  | false =>
    have : ∀ month : Fin 14, 1 ≤ month.val → ∑ m ∈ Ico 1 month.val, daysInMonth 1 m =
        if month.val ≤ 2 then 31 * (month.val - 1) else (153 * (month.val - 3) + 2) / 5 + 59 := by
      decide
    simp only [daysInMonth_of_not_leap hleap, Bool.false_eq_true, if_false]
    exact this ⟨month, by omega⟩ hlow

/-- The day of a date is the count of the days before it. -/
theorem dayNumber_eq {year month day : Nat} (hyear : 1 ≤ year) (hmonth : 1 ≤ month ∧ month ≤ 12)
    (hday : 1 ≤ day) :
    Date.dayNumber ⟨year, month, day⟩ = (daysSinceFirst year month day : Int) - 719162 := by
  obtain ⟨k, rfl⟩ := Nat.exists_eq_add_one.2 hyear
  rw [daysSinceFirst, daysOfYear, sum_daysInYear, sum_daysInMonth hmonth.1 (by omega)]
  simp only [Date.dayNumber, isLeapYear_iff]
  by_cases hfebruary : month ≤ 2
  · simp only [if_pos hfebruary]
    omega
  · simp only [if_neg hfebruary]
    split <;> omega

/-! ## Dates with the same count -/

/-- Of the stretches of given lengths that follow each other, a place lies in one only. -/
theorem eq_of_sum_add_eq {length : Nat → Nat} {j k r s : Nat} (hj : 1 ≤ j) (hk : 1 ≤ k)
    (hr : r < length j) (hs : s < length k)
    (h : ∑ i ∈ Ico 1 j, length i + r = ∑ i ∈ Ico 1 k, length i + s) : j = k ∧ r = s := by
  have hbefore : ∀ {j k r : Nat}, 1 ≤ j → r < length j → j < k →
      ∑ i ∈ Ico 1 j, length i + r < ∑ i ∈ Ico 1 k, length i := by
    intro j k r hj hr hjk
    calc ∑ i ∈ Ico 1 j, length i + r < ∑ i ∈ Ico 1 j, length i + length j := by omega
      _ = ∑ i ∈ Ico 1 (j + 1), length i := (sum_Ico_succ_top hj length).symm
      _ ≤ ∑ i ∈ Ico 1 k, length i := sum_le_sum_of_subset (Ico_subset_Ico_right hjk)
  rcases Nat.lt_trichotomy j k with hlt | rfl | hlt
  · have := hbefore hj hr hlt
    omega
  · exact ⟨rfl, by omega⟩
  · have := hbefore hk hs hlt
    omega

theorem daysOfYear_lt {year month day : Nat} (hmonth : 1 ≤ month ∧ month ≤ 12)
    (hday : 1 ≤ day ∧ day ≤ daysInMonth year month) :
    daysOfYear year month day < daysInYear year := by
  have hyear : ∑ m ∈ Ico 1 13, daysInMonth year m = daysInYear year := by
    rw [sum_daysInMonth (by decide) (by decide), daysInYear]
    cases isLeapYear year <;> rfl
  calc daysOfYear year month day
      < ∑ m ∈ Ico 1 month, daysInMonth year m + daysInMonth year month := by
        unfold daysOfYear
        omega
    _ = ∑ m ∈ Ico 1 (month + 1), daysInMonth year m :=
        (sum_Ico_succ_top hmonth.1 (daysInMonth year)).symm
    _ ≤ ∑ m ∈ Ico 1 13, daysInMonth year m :=
        sum_le_sum_of_subset (Ico_subset_Ico_right (by omega))
    _ = daysInYear year := hyear

namespace CivilTime

theorem secondOfDay_lt (c : CivilTime) : c.secondOfDay < 86400 := by
  have := c.hour_le
  have := c.minute_le
  have := c.second_le
  unfold secondOfDay
  omega

/-- Two civil times are not counted as the same second. -/
theorem seconds_injective : Function.Injective seconds := by
  intro a b h
  have ha := a.secondOfDay_lt
  have hb := b.secondOfDay_lt
  unfold seconds at h
  have hdays : daysSinceFirst a.year a.month a.day = daysSinceFirst b.year b.month b.day := by
    omega
  have htime : a.secondOfDay = b.secondOfDay := by omega
  obtain ⟨hyear, hrest⟩ := eq_of_sum_add_eq a.year_mem.1 b.year_mem.1
    (daysOfYear_lt a.month_mem a.day_mem) (daysOfYear_lt b.month_mem b.day_mem) hdays
  have haday := a.day_mem
  have hbday := b.day_mem
  rw [← hyear] at hrest hbday
  obtain ⟨hmonth, hday⟩ := eq_of_sum_add_eq a.month_mem.1 b.month_mem.1
    (by omega) (by omega) hrest
  have hahour := a.minute_le
  have hbhour := b.minute_le
  have hasecond := a.second_le
  have hbsecond := b.second_le
  unfold secondOfDay at htime
  exact CivilTime.ext hyear hmonth (by omega) (by omega) (by omega) (by omega)

/-! ## The civil time of a second -/

/-- The date of a day of the years 1 to 9999 is a date of a civil time. -/
theorem date_mem {n : Int} (hlow : -719162 ≤ n) (hhigh : n ≤ 2932896) :
    (1 ≤ (Date.ofDayNumber n).year ∧ (Date.ofDayNumber n).year ≤ 9999) ∧
      (1 ≤ (Date.ofDayNumber n).month ∧ (Date.ofDayNumber n).month ≤ 12) ∧
      1 ≤ (Date.ofDayNumber n).day ∧
        (Date.ofDayNumber n).day ≤
          daysInMonth (Date.ofDayNumber n).year (Date.ofDayNumber n).month := by
  have hexists := exists?_ofDayNumber n
  simp only [Date.exists?, Bool.and_eq_true, decide_eq_true_eq] at hexists
  obtain ⟨⟨hmonth, hlow'⟩, hhigh'⟩ := hexists
  exact ⟨⟨(year_ofDayNumber_pos n).2 hlow, (year_ofDayNumber n).2.2 hhigh⟩, hmonth, hlow', hhigh'⟩

/-- The civil time of a second of the years 1 to 9999. -/
def ofSeconds (s : Int) (hlow : -62135596800 ≤ s) (hhigh : s ≤ 253402300799) : CivilTime where
  year := (Date.ofDayNumber (s / 86400)).year.toNat
  month := (Date.ofDayNumber (s / 86400)).month
  day := (Date.ofDayNumber (s / 86400)).day
  hour := (s % 86400).toNat / 3600
  minute := (s % 86400).toNat / 60 % 60
  second := (s % 86400).toNat % 60
  year_mem := by
    have := (date_mem (n := s / 86400) (by omega) (by omega)).1
    omega
  month_mem := (date_mem (by omega) (by omega)).2.1
  day_mem := by
    obtain ⟨hyear, -, hday⟩ := date_mem (n := s / 86400) (by omega) (by omega)
    rwa [Int.toNat_of_nonneg (by omega)]
  hour_le := by omega
  minute_le := by omega
  second_le := by omega

/-- The date of a civil time lies in the day that is counted. -/
theorem dayNumber_date (c : CivilTime) :
    Date.dayNumber ⟨c.year, c.month, c.day⟩ * 86400 + c.secondOfDay = c.seconds := by
  simp only [dayNumber_eq c.year_mem.1 c.month_mem c.day_mem.1, seconds, Instant.zero]
  omega

theorem seconds_ofSeconds {s : Int} (hlow : -62135596800 ≤ s) (hhigh : s ≤ 253402300799) :
    (ofSeconds s hlow hhigh).seconds = s := by
  obtain ⟨hyear, -, -⟩ := date_mem (n := s / 86400) (by omega) (by omega)
  have hdate : (⟨(ofSeconds s hlow hhigh).year, (ofSeconds s hlow hhigh).month,
      (ofSeconds s hlow hhigh).day⟩ : Date) = Date.ofDayNumber (s / 86400) := by
    simp only [ofSeconds, Int.toNat_of_nonneg (by omega : 0 ≤ (Date.ofDayNumber (s / 86400)).year)]
  rw [← dayNumber_date, hdate, dayNumber_ofDayNumber]
  simp only [secondOfDay, ofSeconds]
  omega

/-- A second of the years 1 to 9999 is counted by just one civil time. -/
theorem existsUnique_seconds {s : Int} (hlow : -62135596800 ≤ s) (hhigh : s ≤ 253402300799) :
    ∃! c : CivilTime, c.seconds = s := by
  have h := seconds_ofSeconds hlow hhigh
  exact ⟨_, h, fun _ hc => seconds_injective (hc.trans h.symm)⟩

end CivilTime

end PoolClient.Time
