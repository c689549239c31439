import Mathlib.Algebra.Group.Nat.Defs
import Mathlib.Data.List.Induction
import PoolClient.Proofs.Numerals
import PoolClient.Url.Host
/-!
# Numeric hosts

An IPv4 address is written as four decimal numbers, and an IPv6 address as hexadecimal pieces, of
which the first longest run of zeros may be left out. What is written reads back: `ipv4?_ipv4Text`
and `ipv6?_ipv6Text`.
-/

namespace PoolClient

open Number Text

/-! ## Pieces and numbers -/

namespace Text

theorem pieces_eq_splitOn (separator : Char) (cs : List Char) :
    pieces separator cs = cs.splitOn separator := by
  induction cs with
  | nil => rfl
  | cons c rest ih =>
    rw [pieces, List.splitOn_cons_eq_if_modifyHead, ih]
    split
    · rfl
    · cases h : rest.splitOn separator with
      | nil => exact absurd h (List.splitOn_ne_nil _ _)
      | cons piece more => rfl

/-- Pieces without separators that are put together with separators are found again. -/
theorem pieces_intercalate {separator : Char} {ls : List (List Char)} (hls : ls ≠ [])
    (h : ∀ l ∈ ls, separator ∉ l) : pieces separator ([separator].intercalate ls) = ls := by
  rw [pieces_eq_splitOn, List.splitOn_intercalate separator h hls]

/-- Nothing stands in a piece but what stands in the text. -/
theorem subset_of_mem_pieces {separator : Char} {cs l : List Char} (hl : l ∈ pieces separator cs) :
    l ⊆ cs := by
  induction cs generalizing l with
  | nil =>
    rw [List.mem_singleton.1 hl]
    exact List.nil_subset _
  | cons c rest ih =>
    rw [pieces] at hl
    split at hl
    · rcases List.mem_cons.1 hl with rfl | hl
      · exact List.nil_subset _
      · exact List.subset_cons_of_subset c (ih hl)
    · cases hpieces : pieces separator rest with
      | nil => exact absurd hpieces (pieces_ne_nil separator rest)
      | cons piece more =>
        rw [hpieces] at hl ih
        rcases List.mem_cons.1 hl with rfl | hl
        · exact List.cons_subset_cons c (ih List.mem_cons_self)
        · exact List.subset_cons_of_subset c (ih (List.mem_cons_of_mem _ hl))

theorem hexadecimal_ne_nil (n : Nat) : hexadecimal n ≠ [] := by
  rw [hexadecimal]
  split <;> simp

/-- The sixteen digits of a hexadecimal number. -/
theorem mem_hexadecimal {n : Nat} {c : Char} (hc : c ∈ hexadecimal n) :
    ∃ d : Fin 16, c = hexDigit d := by
  fun_induction hexadecimal n with
  | case1 n h => exact ⟨⟨n, h⟩, List.mem_singleton.1 hc⟩
  | case2 n h ih =>
    rcases List.mem_append.1 hc with hc | hc
    · exact ih hc
    · exact ⟨⟨n % 16, Nat.mod_lt _ (by decide)⟩, List.mem_singleton.1 hc⟩

theorem length_hexadecimal_le {n k : Nat} (h : n < 16 ^ (k + 1)) :
    (hexadecimal n).length ≤ k + 1 := by
  induction k generalizing n with
  | zero =>
    rw [hexadecimal, if_pos (by omega)]
    exact Nat.le_refl 1
  | succ k ih =>
    rw [hexadecimal]
    split
    · simp
    · have hquotient : n / 16 < 16 ^ (k + 1) := by
        rw [Nat.div_lt_iff_lt_mul (by decide)]
        omega
      have := ih hquotient
      rw [List.length_append, List.length_singleton]
      omega

end Text

namespace Number

/-- One more digit. -/
theorem numberIn_append_singleton_iff {base n : Nat} {cs : List Char} {c : Char} :
    numberIn base (cs ++ [c]) = some n ↔
      ∃ m d, numberIn base cs = some m ∧ hexValue? c = some d ∧ d < base ∧ base * m + d = n := by
  simp only [numberIn, List.foldlM_append, List.foldlM_cons, List.foldlM_nil, bind_pure,
    Option.bind_eq_bind, Option.bind_eq_some_iff]
  cases hexValue? c with
  | none => simp
  | some d => simp

/-- The ten digits of a decimal number. -/
theorem mem_digits {n : Nat} {c : Char} (hc : c ∈ digits n) : ∃ d : Fin 10, c = digit d := by
  fun_induction digits n with
  | case1 n h => exact ⟨⟨n, h⟩, List.mem_singleton.1 hc⟩
  | case2 n h ih =>
    rcases List.mem_append.1 hc with hc | hc
    · exact ih hc
    · exact ⟨⟨n % 10, Nat.mod_lt _ (by decide)⟩, List.mem_singleton.1 hc⟩

theorem hexValue?_digit {d : Nat} (h : d < 10) : hexValue? (digit d) = some d := by
  have : ∀ i : Fin 10, hexValue? (digit i) = some i.val := by decide
  exact this ⟨d, h⟩

theorem hexValue?_hexDigit {d : Nat} (h : d < 16) : hexValue? (hexDigit d) = some d := by
  have : ∀ i : Fin 16, hexValue? (hexDigit i) = some i.val := by decide
  exact this ⟨d, h⟩

theorem numberIn_digits (n : Nat) : numberIn 10 (digits n) = some n := by
  fun_induction digits n with
  | case1 n h => simp [numberIn, hexValue?_digit h, h]
  | case2 n h ih =>
    exact numberIn_append_singleton_iff.2
      ⟨n / 10, n % 10, ih, hexValue?_digit (by omega), by omega, by omega⟩

theorem numberIn_hexadecimal (n : Nat) : numberIn 16 (hexadecimal n) = some n := by
  fun_induction hexadecimal n with
  | case1 n h => simp [numberIn, hexValue?_hexDigit h, h]
  | case2 n h ih =>
    exact numberIn_append_singleton_iff.2
      ⟨n / 16, n % 16, ih, hexValue?_hexDigit (by omega), by omega, by omega⟩

/-- A number is bounded by how many digits it has. -/
theorem numberIn_lt {base n : Nat} {ds : List Char} (h : numberIn base ds = some n) :
    n < base ^ ds.length := by
  induction ds using List.reverseRecOn generalizing n with
  | nil =>
    cases h
    simp
  | append_singleton ds c ih =>
    obtain ⟨m, d, hm, -, hd, rfl⟩ := numberIn_append_singleton_iff.1 h
    calc base * m + d < base * (m + 1) := by rw [Nat.mul_succ]; omega
      _ ≤ base * base ^ ds.length := Nat.mul_le_mul_left _ (ih hm)
      _ = base ^ (ds ++ [c]).length := by
        rw [List.length_append, List.length_singleton, Nat.pow_succ, Nat.mul_comm]

end Number

namespace Url

/-! ## IPv6 -/

/-- The pieces of an IPv6 address. -/
structure IsIpv6 (ps : List Nat) : Prop where
  eight : ps.length = 8
  small : ∀ p ∈ ps, p < 65536

/-- What a traversal gives comes from what is traversed. -/
theorem exists_of_mapM_eq_some {α β : Type} {f : α → Option β} {as : List α} {bs : List β} {b : β}
    (h : as.mapM f = some bs) (hb : b ∈ bs) : ∃ a ∈ as, f a = some b := by
  induction as generalizing bs with
  | nil =>
    cases h
    cases hb
  | cons a as ih =>
    simp only [List.mapM_cons, Option.bind_eq_bind, Option.pure_def, Option.bind_eq_some_iff,
      Option.some.injEq] at h
    obtain ⟨b', hb', bs', hbs', rfl⟩ := h
    rcases List.mem_cons.1 hb with rfl | hb
    · exact ⟨a, List.mem_cons_self, hb'⟩
    · obtain ⟨a', ha', hab⟩ := ih hbs' hb
      exact ⟨a', List.mem_cons_of_mem _ ha', hab⟩

/-- A traversal that succeeds everywhere. -/
theorem mapM_eq_some_map {α β : Type} {f : α → Option β} {g : α → β} {as : List α}
    (h : ∀ a ∈ as, f a = some (g a)) : as.mapM f = some (as.map g) := by
  induction as with
  | nil => rfl
  | cons a as ih =>
    obtain ⟨ha, has⟩ := List.forall_mem_cons.1 h
    simp [List.mapM_cons, ha, ih has]

/-- What is written piece by piece is read piece by piece. -/
theorem mapM_map_eq_some {α β : Type} {f : α → Option β} {g : β → α} {bs : List β}
    (h : ∀ b ∈ bs, f (g b) = some b) : (bs.map g).mapM f = some bs := by
  rw [List.mapM_map, mapM_eq_some_map (f := f ∘ g) h, List.map_id']

theorem ipv6Piece?_lt {ds : List Char} {p : Nat} (h : ipv6Piece? ds = some p) : p < 65536 := by
  unfold ipv6Piece? at h
  split at h
  · cases h
  · rename_i hlength
    simp only [Bool.or_eq_true, decide_eq_true_eq, not_or, Nat.not_lt] at hlength
    calc p < 16 ^ ds.length := numberIn_lt h
      _ ≤ 16 ^ 4 := Nat.pow_le_pow_right (by decide) hlength.2
      _ = 65536 := rfl

theorem ipv6Piece?_hexadecimal {p : Nat} (h : p < 65536) :
    ipv6Piece? (hexadecimal p) = some p := by
  have hlength : (hexadecimal p).length ≤ 4 := length_hexadecimal_le h
  have hempty : (hexadecimal p).isEmpty = false := by simpa using hexadecimal_ne_nil p
  rw [ipv6Piece?, hempty, if_neg (by simpa using hlength), numberIn_hexadecimal]

/-- Without a dot, all pieces between the colons are hexadecimal. -/
theorem ipv6Pieces?_of_not_mem {mixed : Bool} {cs : List Char} (h : '.' ∉ cs) :
    ipv6Pieces? mixed cs = (pieces ':' cs).mapM ipv6Piece? := by
  cases hlast : (pieces ':' cs).reverse with
  | nil => exact absurd (List.reverse_eq_nil_iff.1 hlast) (pieces_ne_nil ':' cs)
  | cons last rest =>
    have hpieces : pieces ':' cs = rest.reverse ++ [last] := by
      rw [← List.reverse_reverse (pieces ':' cs), hlast, List.reverse_cons]
    have hdot : last.contains '.' = false := by
      have hmem : last ∈ pieces ':' cs := by simp [hpieces]
      simpa using fun hlast => h (subset_of_mem_pieces hmem hlast)
    rw [ipv6Pieces?, hlast]
    simp only [hdot, Bool.and_false, Bool.false_eq_true, if_false]
    rw [hpieces]

theorem plainByte?_lt {ds : List Char} {n : Nat} (h : plainByte? ds = some n) : n < 256 := by
  unfold plainByte? at h
  split at h
  · rename_i hbyte
    cases h
    simp only [Bool.and_eq_true, decide_eq_true_eq] at hbyte
    exact hbyte.2
  · cases h

theorem ipv4Pieces?_lt {cs : List Char} {ps : List Nat} (h : ipv4Pieces? cs = some ps) :
    ∀ p ∈ ps, p < 65536 := by
  unfold ipv4Pieces? at h
  split at h
  · rename_i a b c d hbytes
    cases h
    have hlt : ∀ n ∈ [a, b, c, d], n < 256 := fun n hn => by
      obtain ⟨ds, -, hds⟩ := exists_of_mapM_eq_some hbytes hn
      exact plainByte?_lt hds
    simp only [List.forall_mem_cons] at hlt ⊢
    exact ⟨by omega, by omega, List.forall_mem_nil _⟩
  · cases h

theorem lt_of_mapM_ipv6Piece? {ls : List (List Char)} {ps : List Nat}
    (h : ls.mapM ipv6Piece? = some ps) : ∀ p ∈ ps, p < 65536 := by
  intro p hp
  obtain ⟨ds, -, hds⟩ := exists_of_mapM_eq_some h hp
  exact ipv6Piece?_lt hds

theorem ipv6Pieces?_lt {mixed : Bool} {cs : List Char} {ps : List Nat}
    (h : ipv6Pieces? mixed cs = some ps) : ∀ p ∈ ps, p < 65536 := by
  unfold ipv6Pieces? at h
  split at h
  · split at h
    · split at h
      · rename_i pair front hpair hfront
        cases h
        intro p hp
        rcases List.mem_append.1 hp with hp | hp
        · exact lt_of_mapM_ipv6Piece? hfront p hp
        · exact ipv4Pieces?_lt hpair p hp
      · cases h
    · exact lt_of_mapM_ipv6Piece? h
  · cases h

theorem ipv6Side?_lt {mixed : Bool} {cs : List Char} {ps : List Nat}
    (h : ipv6Side? mixed cs = some ps) : ∀ p ∈ ps, p < 65536 := by
  unfold ipv6Side? at h
  split at h
  · cases h
    exact List.forall_mem_nil _
  · exact ipv6Pieces?_lt h

/-- What is read as an IPv6 address has eight pieces of two bytes. -/
theorem isIpv6_of_ipv6? {cs : List Char} {ps : List Nat} (h : ipv6? cs = some ps) : IsIpv6 ps := by
  unfold ipv6? at h
  split at h
  · split at h
    · rename_i ps' hpieces
      split at h
      · rename_i hlength
        cases h
        exact ⟨hlength, ipv6Pieces?_lt hpieces⟩
      · cases h
    · cases h
  · split at h
    · rename_i front back hfront hback
      simp only at h
      split at h
      · rename_i hgiven
        cases h
        refine ⟨by simp; omega, fun p hp => ?_⟩
        rcases List.mem_append.1 hp with hp | hp
        · rcases List.mem_append.1 hp with hp | hp
          · exact ipv6Side?_lt hfront p hp
          · rw [List.eq_of_mem_replicate hp]
            decide
        · exact ipv6Side?_lt hback p hp
      · cases h
    · cases h

/-! ### Runs of zeros -/

/-- Zeros stand where a run of them begins. -/
theorem drop_eq_of_zeroRuns {ps : List Nat} {place length : Nat}
    (h : (zeroRuns ps)[place]? = some length) :
    ps.drop place = List.replicate length 0 ++ ps.drop (place + length) := by
  induction ps generalizing place length with
  | nil => cases h
  | cons p rest ih =>
    cases place with
    | succ place =>
      rw [zeroRuns, List.getElem?_cons_succ] at h
      rw [List.drop_succ_cons, ih h, Nat.succ_add, List.drop_succ_cons]
    | zero =>
      rw [zeroRuns, List.getElem?_cons_zero, Option.some.injEq] at h
      split at h
      · rename_i hp
        subst hp
        have hrest : rest = List.replicate ((zeroRuns rest).headD 0) 0 ++
            rest.drop ((zeroRuns rest).headD 0) := by
          cases hruns : zeroRuns rest with
          | nil => rfl
          | cons run runs =>
            have hrun : (zeroRuns rest)[0]? = some run := by
              rw [hruns]
              rfl
            simpa using ih hrun
        rw [← h, Nat.zero_add, List.replicate_succ, List.drop_succ_cons, List.drop_zero,
          List.cons_append, ← hrest]
      · rw [← h]
        rfl

theorem foldl_max_mem (n : Nat) (ns : List Nat) : ns.foldl max n = n ∨ ns.foldl max n ∈ ns := by
  induction ns generalizing n with
  | nil => exact .inl rfl
  | cons m ns ih =>
    rw [List.foldl_cons]
    rcases ih (max n m) with h | h
    · rw [h]
      rcases Nat.le_total m n with hmn | hmn
      · exact .inl (Nat.max_eq_left hmn)
      · exact .inr (by simp [Nat.max_eq_right hmn])
    · exact .inr (List.mem_cons_of_mem _ h)

/-- The longest run of zeros parts an address in what stands before it and what stands after it. -/
theorem eq_append_longestZeros (ps : List Nat) :
    ps = ps.take (longestZeros ps).1 ++ (List.replicate (longestZeros ps).2 0 ++
      ps.drop ((longestZeros ps).1 + (longestZeros ps).2)) := by
  rcases foldl_max_mem 0 (zeroRuns ps) with hnone | hsome
  · have hlength : (longestZeros ps).2 = 0 := hnone
    rw [hlength, List.replicate_zero, List.nil_append, Nat.add_zero, List.take_append_drop]
  · have hrun : (zeroRuns ps)[(longestZeros ps).1]? = some (longestZeros ps).2 :=
      List.getElem?_eq_some_iff.2 ⟨List.idxOf_lt_length_of_mem hsome, List.getElem_idxOf _⟩
    rw [← drop_eq_of_zeroRuns hrun, List.take_append_drop]

/-- An address is written in whole, or zeros are left out. -/
theorem ipv6Text_cases (ps : List Nat) : ipv6Text ps = joinedPieces ps ∨
    ∃ front length back, 0 < length ∧ ps = front ++ (List.replicate length 0 ++ back) ∧
      ipv6Text ps = joinedPieces front ++ [':', ':'] ++ joinedPieces back := by
  have htext : ipv6Text ps =
      if (longestZeros ps).2 < 2 then joinedPieces ps
      else joinedPieces (ps.take (longestZeros ps).1) ++ [':', ':'] ++
        joinedPieces (ps.drop ((longestZeros ps).1 + (longestZeros ps).2)) := rfl
  rw [htext]
  split
  · exact .inl rfl
  · exact .inr ⟨_, _, _, by omega, eq_append_longestZeros ps, rfl⟩

/-! ### Reading back -/

theorem joinedPieces_cons_cons (p q : Nat) (ps : List Nat) :
    joinedPieces (p :: q :: ps) = hexadecimal p ++ ':' :: joinedPieces (q :: ps) := by
  simp [joinedPieces]

theorem joinedPieces_singleton (p : Nat) : joinedPieces [p] = hexadecimal p := by
  simp [joinedPieces]

/-- What is joined begins with the first piece. -/
theorem joinedPieces_cons (p : Nat) (ps : List Nat) :
    ∃ cs, joinedPieces (p :: ps) = hexadecimal p ++ cs := by
  cases ps with
  | nil => exact ⟨[], by rw [joinedPieces_singleton, List.append_nil]⟩
  | cons q ps => exact ⟨_, joinedPieces_cons_cons p q ps⟩

/-- Hexadecimal digits and colons stand in an address. -/
theorem mem_joinedPieces {ps : List Nat} {c : Char} (hc : c ∈ joinedPieces ps) :
    c = ':' ∨ ∃ p, c ∈ hexadecimal p := by
  match ps with
  | [] => cases hc
  | [p] => exact .inr ⟨p, joinedPieces_singleton p ▸ hc⟩
  | p :: q :: ps =>
    rw [joinedPieces_cons_cons] at hc
    rcases List.mem_append.1 hc with hc | hc
    · exact .inr ⟨p, hc⟩
    · rcases List.mem_cons.1 hc with rfl | hc
      · exact .inl rfl
      · exact mem_joinedPieces hc

theorem ne_of_mem_hexadecimal {c d : Char} {n : Nat} (hc : c ∈ hexadecimal n)
    (hd : hexValue? d = none) : c ≠ d := by
  rintro rfl
  obtain ⟨i, rfl⟩ := mem_hexadecimal hc
  rw [hexValue?_hexDigit i.isLt] at hd
  cases hd

theorem splitDoubleColon_append {ds : List Char} (hds : ':' ∉ ds) (cs : List Char) :
    splitDoubleColon (ds ++ cs) =
      (splitDoubleColon cs).map fun (before, after) => (ds ++ before, after) := by
  induction ds with
  | nil => simp
  | cons d ds ih =>
    have hd : d ≠ ':' := fun h => hds (h ▸ List.mem_cons_self)
    rw [List.cons_append, splitDoubleColon, ih fun h => hds (List.mem_cons_of_mem _ h),
      Option.map_map]
    · rfl
    · exact fun _ h => absurd h hd

/-- There is no double colon where pieces are joined. -/
theorem splitDoubleColon_joinedPieces (ps : List Nat) (cs : List Char) :
    splitDoubleColon (joinedPieces ps ++ cs) =
      (splitDoubleColon cs).map fun (before, after) => (joinedPieces ps ++ before, after) := by
  have hcolon : ∀ p, ':' ∉ hexadecimal p := fun p h => ne_of_mem_hexadecimal h rfl rfl
  match ps with
  | [] => simp [joinedPieces]
  | [p] =>
    rw [joinedPieces_singleton]
    exact splitDoubleColon_append (hcolon p) cs
  | p :: q :: ps =>
    have hstep : splitDoubleColon (':' :: (joinedPieces (q :: ps) ++ cs)) =
        (splitDoubleColon (joinedPieces (q :: ps) ++ cs)).map
          fun (before, after) => (':' :: before, after) := by
      obtain ⟨d, ds, hq⟩ := List.exists_cons_of_ne_nil (hexadecimal_ne_nil q)
      have hd : d ≠ ':' := ne_of_mem_hexadecimal (hq ▸ List.mem_cons_self) rfl
      obtain ⟨more, hmore⟩ := joinedPieces_cons q ps
      rw [hmore, hq, splitDoubleColon]
      exact fun _ _ h => absurd (List.cons.inj h).1 hd
    rw [joinedPieces_cons_cons, List.append_assoc, splitDoubleColon_append (hcolon p),
      List.cons_append, hstep, splitDoubleColon_joinedPieces (q :: ps), Option.map_map,
      Option.map_map]
    simp [Function.comp_def]

theorem pieces_joinedPieces {ps : List Nat} (h : ps ≠ []) :
    pieces ':' (joinedPieces ps) = ps.map hexadecimal := by
  refine pieces_intercalate (by simpa using h) fun l hl => ?_
  obtain ⟨p, -, rfl⟩ := List.mem_map.1 hl
  exact fun hmem => ne_of_mem_hexadecimal hmem rfl rfl

theorem ipv6Pieces?_joinedPieces {mixed : Bool} {ps : List Nat} (hps : ps ≠ [])
    (h : ∀ p ∈ ps, p < 65536) : ipv6Pieces? mixed (joinedPieces ps) = some ps := by
  have hdot : '.' ∉ joinedPieces ps := fun hmem => by
    rcases mem_joinedPieces hmem with hcolon | ⟨p, hp⟩
    · cases hcolon
    · exact ne_of_mem_hexadecimal hp rfl rfl
  rw [ipv6Pieces?_of_not_mem hdot, pieces_joinedPieces hps,
    mapM_map_eq_some fun p hp => ipv6Piece?_hexadecimal (h p hp)]

theorem ipv6Side?_joinedPieces {mixed : Bool} {ps : List Nat} (h : ∀ p ∈ ps, p < 65536) :
    ipv6Side? mixed (joinedPieces ps) = some ps := by
  by_cases hps : ps = []
  · subst hps
    rfl
  · obtain ⟨p, rest, rfl⟩ := List.exists_cons_of_ne_nil hps
    obtain ⟨more, hmore⟩ := joinedPieces_cons p rest
    have hempty : (joinedPieces (p :: rest)).isEmpty = false := by
      simp [hmore, hexadecimal_ne_nil]
    rw [ipv6Side?, hempty, if_neg Bool.false_ne_true, ipv6Pieces?_joinedPieces hps h]

theorem IsIpv6.ne_nil {ps : List Nat} (h : IsIpv6 ps) : ps ≠ [] :=
  List.ne_nil_of_length_pos (by rw [h.eight]; decide)

theorem ipv6?_joinedPieces {ps : List Nat} (h : IsIpv6 ps) :
    ipv6? (joinedPieces ps) = some ps := by
  have hnone : splitDoubleColon (joinedPieces ps) = none := by
    simpa [splitDoubleColon] using splitDoubleColon_joinedPieces ps []
  rw [ipv6?, hnone]
  simp only [ipv6Pieces?_joinedPieces h.ne_nil h.small, h.eight, if_true]

/-- A double colon stands for the zeros that are left out. -/
theorem ipv6?_shortened {front back : List Nat} {length : Nat}
    (h : IsIpv6 (front ++ (List.replicate length 0 ++ back))) (hlength : 0 < length) :
    ipv6? (joinedPieces front ++ [':', ':'] ++ joinedPieces back) =
      some (front ++ (List.replicate length 0 ++ back)) := by
  have hsplit : splitDoubleColon (joinedPieces front ++ [':', ':'] ++ joinedPieces back) =
      some (joinedPieces front, joinedPieces back) := by
    rw [List.append_assoc, splitDoubleColon_joinedPieces]
    simp [splitDoubleColon]
  have hfront : ∀ p ∈ front, p < 65536 := fun p hp => h.small p (List.mem_append_left _ hp)
  have hback : ∀ p ∈ back, p < 65536 := fun p hp =>
    h.small p (List.mem_append_right _ (List.mem_append_right _ hp))
  have height : front.length + (length + back.length) = 8 := by simpa using h.eight
  have hgiven : 8 - (front.length + back.length) = length := by omega
  rw [ipv6?, hsplit]
  simp only [ipv6Side?_joinedPieces hfront, ipv6Side?_joinedPieces hback, hgiven]
  rw [if_pos (by omega), List.append_assoc]

/-- An IPv6 address is read as it is written. -/
theorem ipv6?_ipv6Text {ps : List Nat} (h : IsIpv6 ps) : ipv6? (ipv6Text ps) = some ps := by
  rcases ipv6Text_cases ps with htext | ⟨front, length, back, hlength, rfl, htext⟩
  · rw [htext, ipv6?_joinedPieces h]
  · rw [htext, ipv6?_shortened h hlength]

/-- Hexadecimal digits and colons stand in an IPv6 address. -/
theorem mem_ipv6Text {ps : List Nat} {c : Char} (hc : c ∈ ipv6Text ps) :
    c = ':' ∨ ∃ p, c ∈ hexadecimal p := by
  rcases ipv6Text_cases ps with htext | ⟨front, length, back, -, -, htext⟩
  · exact mem_joinedPieces (htext ▸ hc)
  · rw [htext, List.mem_append, List.mem_append] at hc
    rcases hc with (hc | hc) | hc
    · exact mem_joinedPieces hc
    · exact .inl (by simpa using hc)
    · exact mem_joinedPieces hc

/-- A colon stands in every IPv6 address. -/
theorem colon_mem_ipv6Text {ps : List Nat} (h : IsIpv6 ps) : ':' ∈ ipv6Text ps := by
  rcases ipv6Text_cases ps with htext | ⟨front, length, back, -, -, htext⟩
  · match ps, h.eight with
    | p :: q :: ps, _ => simp [htext, joinedPieces_cons_cons]
  · simp [htext]

/-! ## IPv4 -/

/-- Some bytes, and what is left after them. -/
theorem foldl_bytes_lt {ns : List Nat} (h : ∀ n ∈ ns, n < 256) (m : Nat) :
    ns.foldl (fun n b => 256 * n + b) m < (m + 1) * 256 ^ ns.length := by
  induction ns generalizing m with
  | nil => simp
  | cons b ns ih =>
    obtain ⟨hb, hns⟩ := List.forall_mem_cons.1 h
    calc ns.foldl (fun n b => 256 * n + b) (256 * m + b)
        < (256 * m + b + 1) * 256 ^ ns.length := ih hns _
      _ ≤ 256 * (m + 1) * 256 ^ ns.length := Nat.mul_le_mul_right _ (by omega)
      _ = (m + 1) * 256 ^ (b :: ns).length := by
        rw [List.length_cons, Nat.pow_succ, Nat.mul_comm 256, Nat.mul_assoc, Nat.mul_comm 256]

/-- An address has four bytes. -/
theorem lt_of_ipv4OfNumbers? {ns : List Nat} {n : Nat} (h : ipv4OfNumbers? ns = some n) :
    n < 256 ^ 4 := by
  unfold ipv4OfNumbers? at h
  split at h
  · cases h
  · rename_i last bytes hns
    split at h
    · rename_i hfits
      cases h
      simp only [Bool.and_eq_true, decide_eq_true_eq, List.all_eq_true] at hfits
      obtain ⟨⟨hlength, hbytes⟩, hlast⟩ := hfits
      have hcount : ns.length = bytes.length + 1 := by
        simpa using congrArg List.length hns
      have hfront := foldl_bytes_lt (fun n hn => hbytes n (List.mem_reverse.1 hn)) 0
      rw [List.length_reverse, Nat.zero_add, Nat.one_mul] at hfront
      generalize bytes.reverse.foldl _ 0 = front at hfront ⊢
      calc front * 256 ^ (4 - bytes.length) + last
          < (front + 1) * 256 ^ (4 - bytes.length) := by
            rw [Nat.succ_mul]
            exact Nat.add_lt_add_left hlast _
        _ ≤ 256 ^ bytes.length * 256 ^ (4 - bytes.length) := Nat.mul_le_mul_right _ hfront
        _ = 256 ^ 4 := by rw [← Nat.pow_add, Nat.add_sub_cancel' (by omega)]
    · cases h

theorem lt_of_ipv4? {host : List Char} {n : Nat} (h : ipv4? host = some n) : n < 256 ^ 4 := by
  obtain ⟨ns, -, hns⟩ := Option.bind_eq_some_iff.1 h
  exact lt_of_ipv4OfNumbers? hns

/-- A number has no leading zeros. -/
theorem head?_digits {n : Nat} (h : n ≠ 0) : (digits n).head? ≠ some '0' := by
  fun_induction digits n with
  | case1 n hn =>
    have : ∀ i : Fin 10, i ≠ 0 → digit i ≠ '0' := by decide
    simpa using this ⟨n, hn⟩ (by simpa using h)
  | case2 n hn ih =>
    obtain ⟨d, ds, hds⟩ := List.exists_cons_of_ne_nil (digits_ne_nil (n / 10))
    rw [hds] at ih ⊢
    exact ih (by omega)

theorem ipv4Number?_digits (n : Nat) : ipv4Number? (digits n) = some n := by
  by_cases hn : n = 0
  · rw [hn, digits]
    rfl
  · have hhead := head?_digits hn
    have hnumber := numberIn_digits n
    obtain ⟨d, ds, hds⟩ := List.exists_cons_of_ne_nil (digits_ne_nil n)
    rw [hds] at hhead hnumber ⊢
    have hd : d ≠ '0' := fun h => hhead (h ▸ rfl)
    unfold ipv4Number?
    split
    case h_1 heq => cases heq
    case h_5 => exact hnumber
    all_goals exact absurd (List.cons.inj ‹_›).1 hd

/-- The four numbers of an address. -/
def ipv4Bytes (n : Nat) : List Nat :=
  [n / 16777216, n / 65536 % 256, n / 256 % 256, n % 256]

theorem pieces_ipv4Text (n : Nat) : pieces '.' (ipv4Text n) = (ipv4Bytes n).map digits := by
  have htext : ipv4Text n = ['.'].intercalate ((ipv4Bytes n).map digits) := by
    simp [ipv4Text, ipv4Bytes]
  rw [htext]
  refine pieces_intercalate (by simp [ipv4Bytes]) fun l hl hdot => ?_
  obtain ⟨m, -, rfl⟩ := List.mem_map.1 hl
  cases isDigit_of_mem_digits m _ hdot

theorem labels_ipv4Text (n : Nat) : labels (ipv4Text n) = (ipv4Bytes n).map digits := by
  obtain ⟨d, ds, hds⟩ := List.exists_cons_of_ne_nil (digits_ne_nil (n % 256))
  rw [labels, pieces_ipv4Text]
  simp [ipv4Bytes, hds]

/-- Digits and dots stand in an IPv4 address. -/
theorem mem_ipv4Text {n : Nat} {c : Char} (hc : c ∈ ipv4Text n) :
    c = '.' ∨ ∃ m, c ∈ digits m := by
  simp only [ipv4Text, List.mem_append, List.mem_cons] at hc
  rcases hc with ((hc | rfl | hc) | rfl | hc) | rfl | hc <;>
    first | exact .inl rfl | exact .inr ⟨_, hc⟩

theorem endsInNumber_ipv4Text (n : Nat) : endsInNumber (ipv4Text n) = true := by
  rw [endsInNumber, labels_ipv4Text]
  simp [ipv4Bytes, isNumeral_digits]

/-- An IPv4 address is read as it is written. -/
theorem ipv4?_ipv4Text {n : Nat} (h : n < 256 ^ 4) : ipv4? (ipv4Text n) = some n := by
  rw [ipv4?, labels_ipv4Text, mapM_map_eq_some fun m _ => ipv4Number?_digits m, Option.bind_some]
  have hbyte : ∀ m, m % 256 < 256 := fun m => Nat.mod_lt _ (by decide)
  have hfirst : n / 16777216 < 256 := by omega
  simp [ipv4OfNumbers?, ipv4Bytes, hbyte, hfirst]
  omega

end Url

end PoolClient
