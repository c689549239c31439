import PoolClient.Proofs.Blanks
import PoolClient.Proofs.CivilTime
import PoolClient.Proofs.Instants
import PoolClient.Schema.Decode
import PoolClient.Schema.Encode
/-!
# Spellings of an instant

A civil time is spelled in compact or dashed form, then its zone follows: nothing or `Z` for
universal time, or an offset. All spellings of an instant are read as that instant, and the
compact one in universal time is written (`decode_spelling`).
-/

namespace PoolClient

open Number Text

namespace Time

/-! ## Spellings -/

/-- What follows a time of day: nothing or `Z` for universal time, or by how much local time is
ahead of it or behind. -/
inductive Zone where
  | unsaid
  | universal
  | ahead (hours minutes : Nat) (h : hours ≤ 23 ∧ minutes ≤ 59)
  | behind (hours minutes : Nat) (h : hours ≤ 23 ∧ minutes ≤ 59)

namespace Zone

/-- The zone as it is spelled, with two digits for the hours and for the minutes. -/
def text : Zone → List Char
  | unsaid => []
  | universal => ['Z']
  | ahead hours minutes _ => '+' :: (padded 2 hours ++ ':' :: padded 2 minutes)
  | behind hours minutes _ => '-' :: (padded 2 hours ++ ':' :: padded 2 minutes)

/-- The seconds by which local time is ahead of universal time. -/
def seconds : Zone → Int
  | unsaid => 0
  | universal => 0
  | ahead hours minutes _ => hours * 3600 + minutes * 60
  | behind hours minutes _ => -(hours * 3600 + minutes * 60)

end Zone

namespace CivilTime

/-- `YYYYMMDDTHH:MM:SS`, and what follows. -/
def compact (c : CivilTime) (rest : List Char) : List Char :=
  padded 4 c.year ++ padded 2 c.month ++ padded 2 c.day ++ 'T' ::
    (padded 2 c.hour ++ ':' :: (padded 2 c.minute ++ ':' :: (padded 2 c.second ++ rest)))

/-- `YYYY-MM-DDTHH:MM:SS`, and what follows. -/
def dashed (c : CivilTime) (rest : List Char) : List Char :=
  Time.dashed c.year c.month c.day c.hour c.minute c.second rest

/-- The text is a civil time in compact or dashed form with its zone, and blanks around it. -/
def Spelled (c : CivilTime) (zone : Zone) (text : String) : Prop :=
  ∃ front form back, (∀ ch ∈ front, isBlank ch = true) ∧ (∀ ch ∈ back, isBlank ch = true) ∧
    (form = c.compact zone.text ∨ form = c.dashed zone.text) ∧ text.toList = front ++ form ++ back

end CivilTime

/-! ## Numbers after blanks -/

theorem padded_ne_nil (width n : Nat) : padded width n ≠ [] := by
  intro h
  have hdigits : digits n = [] := (List.append_eq_nil_iff.1 h).2
  rw [digits] at hdigits
  split at hdigits
  · cases hdigits
  · exact List.append_ne_nil_of_right_ne_nil _ (List.cons_ne_nil _ _) hdigits

theorem padded_eq_cons (width n : Nat) :
    ∃ c cs, padded width n = c :: cs ∧ c.isDigit = true := by
  obtain ⟨c, cs, h⟩ := List.exists_cons_of_ne_nil (padded_ne_nil width n)
  exact ⟨c, cs, h, isDigit_of_mem_padded c (h ▸ List.mem_cons_self)⟩

/-- There are no blanks in front of a number. -/
theorem dropWhile_isBlank_padded (width n : Nat) (rest : List Char) :
    (padded width n ++ rest).dropWhile isBlank = padded width n ++ rest := by
  obtain ⟨c, cs, h, hc⟩ := padded_eq_cons width n
  have hblank : isBlank c = false := isBlank_of_isPlain (isPlain_of_isDigit hc)
  rw [h, List.cons_append, List.dropWhile_cons_of_neg (by simp [hblank])]

theorem someDigits_padded {width n : Nat} (hwidth : 0 < width) (h : n < 10 ^ width)
    (rest : List Char) : someDigits width (padded width n ++ rest) = some (n, rest) := by
  have hlength := length_padded hwidth h
  have htake : (padded width n ++ rest).take width = padded width n := List.take_left' hlength
  have hdrop : (padded width n ++ rest).drop width = rest := List.drop_left' hlength
  have hall : (padded width n).takeWhile Char.isDigit = padded width n :=
    List.takeWhile_eq_self_iff.2 isDigit_of_mem_padded
  have hempty : (padded width n).isEmpty = false := List.isEmpty_eq_false_iff.2 (padded_ne_nil _ _)
  simp only [someDigits, dropWhile_isBlank_padded, htake, hall, hempty, hlength, hdrop,
    natOfDigits_padded, Bool.false_eq_true, if_false]

theorem year?_padded {n : Nat} (h : n < 10000) (rest : List Char) :
    year? (padded 4 n ++ rest) = some ((n : Int), rest) := by
  have hdigits : someDigits 4 (padded 4 n ++ rest) = some (n, rest) :=
    someDigits_padded (by decide) h rest
  obtain ⟨c, cs, hcs, hc⟩ := padded_eq_cons 4 n
  rw [year?, dropWhile_isBlank_padded]
  split
  · rename_i heq
    rw [hcs] at heq
    cases heq
    cases hc
  · rename_i heq
    rw [hcs] at heq
    cases heq
    cases hc
  · rw [hdigits]
    rfl

/-- A date and a time in dashed form are read, up to their end. -/
theorem readPlain?_dashed {year month day hour minute second : Nat} (hyear : year < 10000)
    (hmonth : month < 100) (hday : day < 100) (hhour : hour < 100) (hminute : minute < 100)
    (hsecond : second < 100) :
    readPlain? (dashed year month day hour minute second []) =
      Fields.instant? ⟨⟨year, month, day⟩, hour, minute, second, 0, 0⟩ := by
  have hafter : ∀ (c : Char) (cs : List Char), after c (c :: cs) = some cs :=
    fun c cs => if_pos rfl
  have htwo : ∀ {n : Nat}, n < 100 → ∀ cs : List Char,
      someDigits 2 (padded 2 n ++ cs) = some (n, cs) :=
    fun h cs => someDigits_padded (by decide) h cs
  have hend : fractionOf [] = some (0, []) := rfl
  refine (bind_of_eq_some (year?_padded hyear _)).trans ?_
  refine (bind_of_eq_some (hafter _ _)).trans ?_
  refine (bind_of_eq_some (htwo hmonth _)).trans ?_
  refine (bind_of_eq_some (hafter _ _)).trans ?_
  refine (bind_of_eq_some (htwo hday _)).trans ?_
  refine (bind_of_eq_some (hafter _ _)).trans ?_
  refine (bind_of_eq_some (htwo hhour _)).trans ?_
  refine (bind_of_eq_some (hafter _ _)).trans ?_
  refine (bind_of_eq_some (htwo hminute _)).trans ?_
  refine (bind_of_eq_some (hafter _ _)).trans ?_
  refine (bind_of_eq_some (htwo hsecond _)).trans ?_
  exact bind_of_eq_some hend

/-! ## Reading a civil time -/

namespace Zone

theorem fractionOf_text (zone : Zone) : fractionOf zone.text = some (0, zone.text) := by
  cases zone <;> rfl

/-- A zone that is said is read as an offset. -/
theorem offset?_text {zone : Zone} (h : zone.text ≠ []) :
    offset? zone.text = some (zone.seconds, []) := by
  have htwo : ∀ {n : Nat}, n < 100 → ∀ cs : List Char,
      fixedDigits 2 (padded 2 n ++ cs) = some (n, cs) :=
    fun h cs => fixedDigits_padded (by decide) h cs
  cases zone with
  | unsaid => exact absurd rfl h
  | universal => rfl
  | ahead hours minutes hrange =>
    have hhours := htwo (n := hours) (by omega) (':' :: padded 2 minutes)
    have hminutes := htwo (n := minutes) (by omega) []
    rw [List.append_nil] at hminutes
    simp [text, offset?, hhours, hminutes, after, hrange, seconds]
  | behind hours minutes hrange =>
    have hhours := htwo (n := hours) (by omega) (':' :: padded 2 minutes)
    have hminutes := htwo (n := minutes) (by omega) []
    rw [List.append_nil] at hminutes
    simp [text, offset?, hhours, hminutes, after, hrange, seconds]

theorem plainText_text (zone : Zone) : PlainText zone.text := by
  cases zone with
  | unsaid => exact .nil
  | universal => exact .cons rfl .nil
  | ahead => exact .cons rfl (.append (plainText_padded _ _) (.cons rfl (plainText_padded _ _)))
  | behind => exact .cons rfl (.append (plainText_padded _ _) (.cons rfl (plainText_padded _ _)))

end Zone

namespace CivilTime

variable (c : CivilTime)

theorem day_lt : c.day < 100 := by
  have := daysInMonth_le c.year c.month
  have := c.day_mem
  omega

/-- The fields of a civil time denote its second, less the offset. -/
theorem instant?_fields (offset : Int) :
    Fields.instant? ⟨⟨c.year, c.month, c.day⟩, c.hour, c.minute, c.second, 0, offset⟩ =
      some ⟨c.seconds - offset, 0⟩ := by
  have hyear := c.year_mem
  have hexists : Date.exists? ⟨c.year, c.month, c.day⟩ = true := by
    simp only [Date.exists?, Bool.and_eq_true, decide_eq_true_eq]
    exact ⟨⟨c.month_mem, c.day_mem.1⟩, c.day_mem.2⟩
  have hsecond := c.second_le
  have hsixty : c.second ≠ 60 := by omega
  unfold Fields.instant?
  rw [if_pos ⟨hexists, by simp only; omega, by simp only; omega, c.hour_le, c.minute_le,
    by simp only; omega⟩, ← dayNumber_date, secondOfDay]
  simp only [if_neg hsixty, Option.some.injEq, Instant.mk.injEq, and_true]
  omega

theorem readWithOffset?_dashed {rest : List Char} (hfraction : fractionOf rest = some (0, rest)) :
    readWithOffset? (c.dashed rest) = (offset? rest).bind fun (offset, cs) =>
      if cs.isEmpty then some ⟨c.seconds - offset, 0⟩ else none := by
  have hyear := c.year_mem
  have hmonth := c.month_mem
  have hhour := c.hour_le
  have hminute := c.minute_le
  have hsecond := c.second_le
  rw [dashed, Time.readWithOffset?_dashed (by omega) (by omega) c.day_lt (by omega) (by omega)
    (by omega) hfraction]
  simp only [instant?_fields]

/-- Without a zone, a civil time is read as universal time. -/
theorem readPlain?_dashed : readPlain? (c.dashed []) = some ⟨c.seconds, 0⟩ := by
  have hyear := c.year_mem
  have hmonth := c.month_mem
  have hhour := c.hour_le
  have hminute := c.minute_le
  have hsecond := c.second_le
  rw [dashed, Time.readPlain?_dashed (by omega) (by omega) c.day_lt (by omega) (by omega)
    (by omega), instant?_fields, Int.sub_zero]

/-! ### Forms -/

theorem withDashes_compact (rest : List Char) : withDashes (c.compact rest) = c.dashed rest := by
  have hyear := c.year_mem
  have hmonth := c.month_mem
  exact Time.withDashes_compact (by omega) (by omega) c.day_lt _

/-- A dashed date has its dashes. -/
theorem withDashes_dashed (rest : List Char) : withDashes (c.dashed rest) = c.dashed rest := by
  have hyear := c.year_mem
  have hlength : (padded 4 c.year).length = 4 := length_padded (by decide) (by omega)
  refine if_neg fun h => ?_
  have hdash : '-' ∈ (c.dashed rest).take 8 := by
    rw [dashed, Time.dashed, List.take_append, hlength]
    exact List.mem_append_right _ List.mem_cons_self
  exact absurd (List.all_eq_true.1 h.1 _ hdash) (by decide)

theorem plainText_dashed {rest : List Char} (h : PlainText rest) : PlainText (c.dashed rest) := by
  have hpadded := plainText_padded
  exact .append (hpadded _ _) (.cons rfl (.append (hpadded _ _) (.cons rfl (.append (hpadded _ _)
    (.cons rfl (.append (hpadded _ _) (.cons rfl (.append (hpadded _ _) (.cons rfl
      (.append (hpadded _ _) h))))))))))

theorem plainText_compact {rest : List Char} (h : PlainText rest) : PlainText (c.compact rest) := by
  have hpadded := plainText_padded
  exact .append (.append (.append (hpadded _ _) (hpadded _ _)) (hpadded _ _)) (.cons rfl
    (.append (hpadded _ _) (.cons rfl (.append (hpadded _ _) (.cons rfl (.append (hpadded _ _) h))))))

/-- There is no `Z` to take off a civil time without a zone. -/
theorem dropEndWhile_dashed : dropEndWhile (· == 'Z') (c.dashed []) = c.dashed [] := by
  rw [dropEndWhile_eq, List.rdropWhile_eq_self_iff]
  intro hne hlast
  have hpadded : ∀ width n, 'Z' ∉ padded width n :=
    fun width n h => absurd (isDigit_of_mem_padded _ h) (by decide)
  have hmem : 'Z' ∈ c.dashed [] := beq_iff_eq.1 hlast ▸ List.getLast_mem hne
  simp [dashed, Time.dashed, hpadded] at hmem

end CivilTime

/-! ## Reading and writing all spellings -/

/-- A text is read as the second of the civil time that it spells, less what this is ahead of
universal time. -/
theorem read?_of_spelled {c : CivilTime} {zone : Zone} {text : String} (h : c.Spelled zone text) :
    Instant.read? text = some ⟨c.seconds - zone.seconds, 0⟩ := by
  obtain ⟨front, form, back, hfront, hback, hform, htext⟩ := h
  have hplain : PlainText form := by
    rcases hform with rfl | rfl
    · exact c.plainText_compact zone.plainText_text
    · exact c.plainText_dashed zone.plainText_text
  have hdashed : withDashes form = c.dashed zone.text := by
    rcases hform with rfl | rfl
    · exact c.withDashes_compact _
    · exact c.withDashes_dashed _
  rw [Instant.read?, htext, trim_append_right _ hback, trim_append_left hfront, hplain.trim_eq,
    hdashed, c.readWithOffset?_dashed zone.fractionOf_text]
  -- Only a zone that is said is read as an offset; the laxer reader takes the rest.
  by_cases hsaid : zone.text = []
  · obtain rfl : zone = .unsaid := by
      cases zone <;> cases hsaid
      rfl
    have hplain : readPlain? (dropEndWhile (· == 'Z') (c.dashed [])) = some ⟨c.seconds - 0, 0⟩ := by
      rw [c.dropEndWhile_dashed, c.readPlain?_dashed, Int.sub_zero]
    exact hplain
  · rw [Zone.offset?_text hsaid]
    rfl

/-- An instant is written as its civil time in compact form, to the second. -/
theorem text_of_seconds {c : CivilTime} {t : Instant} (h : c.seconds = t.seconds)
    (hlow : -62135596800 ≤ t.seconds) (hhigh : t.seconds ≤ 253402300799)
    (hnanos : t.nanos < 1000000000) : t.text = String.ofList (c.compact ['Z']) := by
  obtain rfl : c = .ofSeconds t.seconds hlow hhigh :=
    CivilTime.seconds_injective (h.trans (CivilTime.seconds_ofSeconds hlow hhigh).symm)
  obtain ⟨⟨hfirst, hlast⟩, -⟩ :=
    CivilTime.date_mem (n := t.seconds / 86400) (by omega) (by omega)
  have hyear : yearText t.year = padded 4 t.year.toNat := by
    have hnonneg : 0 ≤ t.year := by
      rw [Instant.year]
      omega
    rw [yearText, if_pos ⟨hnonneg, hlast⟩, ← Int.toNat_of_nonneg hnonneg, Int.natAbs_natCast,
      Int.toNat_natCast]
  rw [← String.ofList_toList (s := t.text), toList_text, hyear, Nat.div_eq_of_lt hnanos]
  rfl

end Time

namespace Schema

open Time

/-- Every instant of a whole second of the years 1 to 9999 has a civil time in each zone in which
this is of those years too. All its spellings are read as the instant, from a date and from text
alike, and the compact one in universal time is written, whatever part of the second has passed. -/
theorem decode_spelling {t : Instant} (hnanos : t.nanos = 0) (hlow : -62135596800 ≤ t.seconds)
    (hhigh : t.seconds ≤ 253402300799) :
    (∀ zone : Zone, -62135596800 ≤ t.seconds + zone.seconds →
      t.seconds + zone.seconds ≤ 253402300799 →
        ∃! c : CivilTime, c.seconds = t.seconds + zone.seconds) ∧
    (∀ (zone : Zone) (c : CivilTime) (text label : String),
      c.seconds = t.seconds + zone.seconds → c.Spelled zone text →
        WireType.instant.decode label (.dateTime text) = .ok (.instant t) ∧
          WireType.instant.decode label (.string text) = .ok (.instant t)) ∧
    ∀ (c : CivilTime) (nanos : Nat) (label : String),
      c.seconds = t.seconds → nanos < 1000000000 →
        (Datum.instant ⟨t.seconds, nanos⟩).encode label =
          .ok (.dateTime (String.ofList (c.compact ['Z']))) := by
  refine ⟨fun zone => CivilTime.existsUnique_seconds, fun zone c text label hc htext => ?_,
    fun c nanos label hc hnanos => ?_⟩
  · have hread : instantOfText label text = .ok (.instant t) := by
      have ht : (⟨c.seconds - zone.seconds, 0⟩ : Instant) = t := by
        rw [hc, Int.add_sub_cancel, ← hnanos]
      exact ht ▸ instantOfText_of_read? (read?_of_spelled htext)
    exact ⟨hread, hread⟩
  · have htext := text_of_seconds (t := ⟨t.seconds, nanos⟩) hc hlow hhigh hnanos
    rw [Datum.encode, htext]

/-- Half an hour into a first of March, spelled in the leap day before it. -/
theorem decode_leap_day :
    let t : Instant := ⟨951870600, 0⟩
    WireType.instant.decode "in" (.string " 20000229T23:30:00-01:00\n") = .ok (.instant t) ∧
      (Datum.instant ⟨951870600, 999⟩).encode "out" = .ok (.dateTime "20000301T00:30:00Z") := by
  intro t
  let c : CivilTime := ⟨2000, 3, 1, 0, 30, 0, by decide, by decide, by decide, by decide, by decide,
    by decide⟩
  let c' : CivilTime := ⟨2000, 2, 29, 23, 30, 0, by decide, by decide, by decide, by decide,
    by decide, by decide⟩
  let zone : Zone := .behind 1 0 (by decide)
  have hc : c.seconds = t.seconds := by decide +kernel
  have hc' : c'.seconds = t.seconds + zone.seconds := by decide +kernel
  have hspelled : c'.Spelled zone " 20000229T23:30:00-01:00\n" :=
    ⟨[' '], _, ['\n'], List.forall_mem_singleton.2 rfl, List.forall_mem_singleton.2 rfl, .inl rfl,
      by decide +kernel⟩
  have hcompact : String.ofList (c.compact ['Z']) = "20000301T00:30:00Z" := by decide +kernel
  obtain ⟨-, hread, hwrite⟩ := decode_spelling (t := t) rfl (by decide) (by decide)
  exact ⟨(hread zone c' _ "in" hc' hspelled).2, hcompact ▸ hwrite c 999 "out" hc (by decide)⟩

end Schema

end PoolClient
