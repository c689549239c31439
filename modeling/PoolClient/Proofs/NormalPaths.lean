import PoolClient.Url.Path
/-!
# Normal paths

The path that is read from a URL is normal: it begins with a slash, its segments are neither a
single dot nor a double dot, not even an escaped one, and whatever may not stand in a path is
escaped (`NormalSegment`). A normal path is read as it is (`pathText_pathText`).
-/

namespace PoolClient.Url

open Number Text

/-! ## Segments -/

theorem segments_eq_splitOnP (cs : List Char) : segments cs = cs.splitOnP isSeparator := by
  induction cs with
  | nil => rfl
  | cons c rest ih =>
    rw [segments, List.splitOnP_cons_eq_if_modifyHead, ih]
    split
    · rfl
    · cases h : rest.splitOnP isSeparator with
      | nil => exact absurd h (List.splitOnP_ne_nil _ _)
      | cons s more => rfl

theorem segments_ne_nil (cs : List Char) : segments cs ≠ [] := by
  rw [segments_eq_splitOnP]
  exact List.splitOnP_ne_nil _ _

/-- Segments hold no separators. -/
theorem isSeparator_of_mem_segments {cs s : List Char} (hs : s ∈ segments cs) :
    ∀ c ∈ s, isSeparator c = false := by
  induction cs generalizing s with
  | nil =>
    rw [List.mem_singleton.1 hs]
    exact List.forall_mem_nil _
  | cons c rest ih =>
    rw [segments] at hs
    split at hs
    · rcases List.mem_cons.1 hs with rfl | hs
      · exact List.forall_mem_nil _
      · exact ih hs
    · rename_i hc
      cases hrest : segments rest with
      | nil => exact absurd hrest (segments_ne_nil rest)
      | cons first more =>
        rw [hrest] at hs
        rcases List.mem_cons.1 hs with rfl | hs
        · exact List.forall_mem_cons.2 ⟨by simpa using hc, ih (by simp [hrest])⟩
        · exact ih (by simp [hrest, hs])

/-- Segments behind slashes are found again. -/
theorem segments_flatMap {ss : List (List Char)} (hss : ss ≠ [])
    (h : ∀ s ∈ ss, ∀ c ∈ s, isSeparator c = false) :
    segments ((ss.flatMap ('/' :: ·)).drop 1) = ss := by
  induction ss with
  | nil => exact absurd rfl hss
  | cons s rest ih =>
    obtain ⟨hs, hrest⟩ := List.forall_mem_cons.1 h
    rw [List.flatMap_cons, List.cons_append, List.drop_one, List.tail_cons, segments_eq_splitOnP]
    cases rest with
    | nil => rw [List.flatMap_nil, List.append_nil, List.splitOnP_eq_singleton hs]
    | cons t more =>
      have htail : (t :: more).flatMap ('/' :: ·) =
          '/' :: ((t :: more).flatMap ('/' :: ·)).drop 1 := rfl
      rw [htail, List.splitOnP_append_cons_of_forall_mem hs '/' rfl, ← segments_eq_splitOnP,
        ih (List.cons_ne_nil _ _) hrest]

/-! ## Escapes -/

theorem escaped_cons (stands : Char → Bool) (c : Char) (cs : List Char) :
    escaped stands (c :: cs) =
      (if stands c then [c] else (String.utf8EncodeChar c).flatMap escapedByte) ++
        escaped stands cs :=
  List.flatMap_cons

/-- What stands everywhere is not escaped. -/
theorem escaped_eq_self {stands : Char → Bool} {cs : List Char} (h : ∀ c ∈ cs, stands c = true) :
    escaped stands cs = cs := by
  induction cs with
  | nil => rfl
  | cons c cs ih =>
    obtain ⟨hc, hcs⟩ := List.forall_mem_cons.1 h
    rw [escaped_cons, if_pos hc, ih hcs, List.singleton_append]

/-- A character in ASCII is one byte, and the bytes of others are beyond ASCII. -/
theorem eq_or_le_of_mem_utf8EncodeChar {c : Char} {b : UInt8} (hb : b ∈ String.utf8EncodeChar c) :
    b.toNat = c.toNat ∨ 0x80 ≤ b.toNat := by
  have hnat : c.toNat = c.val.toNat := rfl
  simp only [String.utf8EncodeChar] at hb
  split at hb
  · simp only [List.mem_singleton] at hb
    rw [hb, UInt8.toNat_ofNat']
    omega
  split at hb
  · simp only [List.mem_cons, List.not_mem_nil, or_false] at hb
    rcases hb with rfl | rfl <;> rw [UInt8.toNat_ofNat'] <;> omega
  split at hb
  · simp only [List.mem_cons, List.not_mem_nil, or_false] at hb
    rcases hb with rfl | rfl | rfl <;> rw [UInt8.toNat_ofNat'] <;> omega
  · simp only [List.mem_cons, List.not_mem_nil, or_false] at hb
    rcases hb with rfl | rfl | rfl | rfl <;> rw [UInt8.toNat_ofNat'] <;> omega

/-- The digits of a byte other than a dot, in capitals, do not make an escaped dot. -/
theorem escapedByte_spec {b : UInt8} (hb : b.toNat ≠ 0x2e) :
    ∃ x y, escapedByte b = ['%', x, y] ∧ x ≠ '%' ∧ y ≠ '%' ∧ (x = '2' → y ≠ 'e' ∧ y ≠ 'E') ∧
      ∀ c ∈ [x, y], standsInPath c = true ∧ isSeparator c = false := by
  have hdigit : ∀ d : Fin 16, hexDigit d ≠ '%' ∧ (hexDigit d = '2' ↔ d = 2) ∧
      hexDigit d ≠ 'e' ∧ (hexDigit d = 'E' ↔ d = 14) ∧ standsInPath (hexDigit d) = true ∧
      isSeparator (hexDigit d) = false := by decide
  have hlt := b.toNat_lt
  obtain ⟨hx, hx2, -, -, hxs⟩ := hdigit ⟨b.toNat / 16, by omega⟩
  obtain ⟨hy, -, hye, hyE, hys⟩ := hdigit ⟨b.toNat % 16, by omega⟩
  refine ⟨hexDigit (b.toNat / 16), hexDigit (b.toNat % 16), rfl, hx, hy, fun h2 => ⟨hye, ?_⟩, ?_⟩
  · intro hE
    have h2 := Fin.mk.inj_iff.1 (hx2.1 h2)
    have hE := Fin.mk.inj_iff.1 (hyE.1 hE)
    simp at h2 hE
    omega
  · simpa using ⟨hxs, hys⟩

theorem plainDots_cons {c : Char} {rest : List Char}
    (hsmall : ∀ tail, c = '%' → rest = '2' :: 'e' :: tail → False)
    (hlarge : ∀ tail, c = '%' → rest = '2' :: 'E' :: tail → False) :
    plainDots (c :: rest) = c :: plainDots rest :=
  plainDots.eq_3 c rest hsmall hlarge

theorem plainDots_cons_of_ne {c : Char} (hc : c ≠ '%') (rest : List Char) :
    plainDots (c :: rest) = c :: plainDots rest :=
  plainDots_cons (fun _ h => absurd h hc) fun _ h => absurd h hc

/-- Some bytes other than dots, escaped, are left alone when escaped dots are made plain. -/
theorem plainDots_escapedBytes {bs : List UInt8} (h : ∀ b ∈ bs, b.toNat ≠ 0x2e) (rest : List Char) :
    plainDots (bs.flatMap escapedByte ++ rest) = bs.flatMap escapedByte ++ plainDots rest := by
  induction bs with
  | nil => rfl
  | cons b bs ih =>
    obtain ⟨hb, hbs⟩ := List.forall_mem_cons.1 h
    obtain ⟨x, y, hxy, hx, hy, hdot, -⟩ := escapedByte_spec hb
    rw [List.flatMap_cons, List.append_assoc, hxy, List.cons_append, List.cons_append,
      List.cons_append, List.nil_append, plainDots_cons, plainDots_cons_of_ne hx,
      plainDots_cons_of_ne hy, ih hbs]
    · rfl
    · rintro tail - htail
      obtain ⟨hx2, hrest⟩ := List.cons.inj htail
      exact (hdot hx2).1 (List.cons.inj hrest).1
    · rintro tail - htail
      obtain ⟨hx2, hrest⟩ := List.cons.inj htail
      exact (hdot hx2).2 (List.cons.inj hrest).1

/-- A character that may not stand is escaped in bytes that are no dots. -/
theorem ne_dot_of_not_stands {c : Char} (hc : standsInPath c = false) :
    ∀ b ∈ String.utf8EncodeChar c, b.toNat ≠ 0x2e := by
  intro b hb hdot
  rcases eq_or_le_of_mem_utf8EncodeChar hb with heq | hle
  · have hc' : c = '.' := Char.toNat_inj.1 (heq.symm.trans hdot)
    rw [hc'] at hc
    cases hc
  · omega

/-- Escaped text that begins with another character than a percent sign begins as the text. -/
theorem eq_cons_of_escaped {cs tail : List Char} {c : Char} (hc : c ≠ '%')
    (h : escaped standsInPath cs = c :: tail) :
    ∃ rest, cs = c :: rest ∧ escaped standsInPath rest = tail := by
  cases cs with
  | nil => cases h
  | cons d rest =>
    rw [escaped_cons] at h
    split at h
    · obtain ⟨rfl, htail⟩ := List.cons.inj h
      exact ⟨rest, rfl, htail⟩
    · obtain ⟨b, bs, hbs⟩ := List.exists_cons_of_ne_nil (String.utf8EncodeChar_ne_nil (c := d))
      rw [hbs] at h
      exact absurd (List.cons.inj h).1.symm hc

/-- Dots are made plain before or after the other characters are escaped. -/
theorem plainDots_escaped (cs : List Char) :
    plainDots (escaped standsInPath cs) = escaped standsInPath (plainDots cs) := by
  induction cs using plainDots.induct with
  | case1 rest ih =>
    have hstands : escaped standsInPath ('%' :: '2' :: 'e' :: rest) =
        '%' :: '2' :: 'e' :: escaped standsInPath rest := rfl
    rw [hstands, plainDots, plainDots, ih]
    rfl
  | case2 rest ih =>
    have hstands : escaped standsInPath ('%' :: '2' :: 'E' :: rest) =
        '%' :: '2' :: 'E' :: escaped standsInPath rest := rfl
    rw [hstands, plainDots, plainDots, ih]
    rfl
  | case3 c rest hsmall hlarge ih =>
    rw [plainDots_cons hsmall hlarge, escaped_cons, escaped_cons]
    split
    · rw [List.singleton_append, List.singleton_append, plainDots_cons, ih]
      · rintro tail hc htail
        obtain ⟨after, rfl, hafter⟩ := eq_cons_of_escaped (by decide) htail
        obtain ⟨rest', rfl, -⟩ := eq_cons_of_escaped (by decide) hafter
        exact hsmall rest' hc rfl
      · rintro tail hc htail
        obtain ⟨after, rfl, hafter⟩ := eq_cons_of_escaped (by decide) htail
        obtain ⟨rest', rfl, -⟩ := eq_cons_of_escaped (by decide) hafter
        exact hlarge rest' hc rfl
    · rename_i hc
      rw [plainDots_escapedBytes (ne_dot_of_not_stands (by simpa using hc)), ih]
  | case4 => rfl

/-- Escaping makes no text into dots. -/
theorem eq_of_escaped_eq_dots {cs dots : List Char} (hdots : ∀ c ∈ dots, c = '.')
    (h : escaped standsInPath cs = dots) : cs = dots := by
  induction dots generalizing cs with
  | nil =>
    cases cs with
    | nil => rfl
    | cons c cs =>
      rw [escaped_cons] at h
      split at h
      · cases h
      · obtain ⟨b, bs, hbs⟩ := List.exists_cons_of_ne_nil (String.utf8EncodeChar_ne_nil (c := c))
        rw [hbs] at h
        cases h
  | cons d dots ih =>
    obtain ⟨rfl, hrest⟩ := List.forall_mem_cons.1 hdots
    obtain ⟨rest, rfl, hescaped⟩ := eq_cons_of_escaped (by decide) h
    rw [ih hrest hescaped]

/-! ## Normal segments -/

/-- A segment that is no dots, and of which nothing must be escaped. -/
structure NormalSegment (s : List Char) : Prop where
  stands : ∀ c ∈ s, standsInPath c = true
  whole : ∀ c ∈ s, isSeparator c = false
  not_dot : plainDots s ≠ ['.']
  not_double_dot : plainDots s ≠ ['.', '.']

theorem normalSegment_nil : NormalSegment [] :=
  ⟨List.forall_mem_nil _, List.forall_mem_nil _, nofun, nofun⟩

/-- What is not escaped stands, and so do the escapes. -/
theorem mem_escaped {cs : List Char} {c : Char} (hc : c ∈ escaped standsInPath cs) :
    standsInPath c = true ∧ (isSeparator c = false ∨ c ∈ cs) := by
  obtain ⟨d, hd, hc⟩ := List.mem_flatMap.1 hc
  split at hc
  · rename_i hstands
    rw [List.mem_singleton.1 hc]
    exact ⟨hstands, .inr hd⟩
  · rename_i hstands
    obtain ⟨b, hb, hc⟩ := List.mem_flatMap.1 hc
    obtain ⟨x, y, hxy, -, -, -, hdigits⟩ :=
      escapedByte_spec (ne_dot_of_not_stands (by simpa using hstands) b hb)
    rw [hxy] at hc
    rcases List.mem_cons.1 hc with rfl | hc
    · exact ⟨rfl, .inl rfl⟩
    · exact ⟨(hdigits c hc).1, .inl (hdigits c hc).2⟩

theorem normalSegment_escaped {s : List Char} (hwhole : ∀ c ∈ s, isSeparator c = false)
    (hdot : plainDots s ≠ ['.']) (hdouble : plainDots s ≠ ['.', '.']) :
    NormalSegment (escaped standsInPath s) where
  stands c hc := (mem_escaped hc).1
  whole c hc := (mem_escaped hc).2.elim id (hwhole c)
  not_dot h := hdot (eq_of_escaped_eq_dots (by simp) (plainDots_escaped s ▸ h))
  not_double_dot h := hdouble (eq_of_escaped_eq_dots (by simp) (plainDots_escaped s ▸ h))

/-! ## Normal paths -/

theorem subset_withoutLast (done : List (List Char)) : withoutLast done ⊆ done := by
  unfold withoutLast
  split
  · split
    · exact fun _ h => h
    · exact List.subset_cons_self _ _
  · exact fun _ h => h

/-- The segments that are resolved are normal. -/
theorem normalSegment_of_mem_resolved {done ss : List (List Char)}
    (hdone : ∀ s ∈ done, NormalSegment s) (hss : ∀ s ∈ ss, ∀ c ∈ s, isSeparator c = false) :
    ∀ s ∈ resolved done ss, NormalSegment s := by
  induction ss generalizing done with
  | nil => exact fun s hs => hdone s (List.mem_reverse.1 hs)
  | cons s rest ih =>
    obtain ⟨hs, hrest⟩ := List.forall_mem_cons.1 hss
    rw [resolved]
    refine ih ?_ hrest
    have hstep : ∀ t ∈ (if plainDots s == ['.'] then done
        else if plainDots s == ['.', '.'] then withoutLast done
        else escaped standsInPath s :: done), NormalSegment t := by
      split
      · exact hdone
      · rename_i hdot
        split
        · exact fun t ht => hdone t (subset_withoutLast done ht)
        · rename_i hdouble
          exact List.forall_mem_cons.2
            ⟨normalSegment_escaped hs (by simpa using hdot) (by simpa using hdouble), hdone⟩
    split
    · exact List.forall_mem_cons.2 ⟨normalSegment_nil, hstep⟩
    · exact hstep

/-- Some segment comes out of every path. -/
theorem resolved_ne_nil {done ss : List (List Char)} (hss : ss ≠ []) : resolved done ss ≠ [] := by
  induction ss generalizing done with
  | nil => exact absurd rfl hss
  | cons s rest ih =>
    rw [resolved]
    cases rest with
    | cons t more => exact ih (List.cons_ne_nil _ _)
    | nil =>
      rw [resolved]
      by_cases hdot : plainDots s = ['.']
      · simp [hdot]
      by_cases hdouble : plainDots s = ['.', '.']
      · simp [hdouble]
      · simp [hdot, hdouble]

/-- Normal segments are resolved already. -/
theorem resolved_of_normal {done ss : List (List Char)} (h : ∀ s ∈ ss, NormalSegment s) :
    resolved done ss = done.reverse ++ ss := by
  induction ss generalizing done with
  | nil => rw [resolved, List.append_nil]
  | cons s rest ih =>
    obtain ⟨hs, hrest⟩ := List.forall_mem_cons.1 h
    have hdot : (plainDots s == ['.']) = false := beq_false_of_ne hs.not_dot
    have hdouble : (plainDots s == ['.', '.']) = false := beq_false_of_ne hs.not_double_dot
    rw [resolved]
    simp only [hdot, hdouble, Bool.or_false, Bool.false_and, Bool.false_eq_true, if_false,
      escaped_eq_self hs.stands]
    rw [ih hrest]
    simp

/-- The path of a URL is made of normal segments, and of one at least. -/
theorem pathText_eq (cs : List Char) : ∃ ss, ss ≠ [] ∧ (∀ s ∈ ss, NormalSegment s) ∧
    pathText cs = ss.flatMap ('/' :: ·) :=
  ⟨resolved [] (segments (cs.drop 1)), resolved_ne_nil (segments_ne_nil _),
    normalSegment_of_mem_resolved (List.forall_mem_nil _)
      fun _ hs => isSeparator_of_mem_segments hs, rfl⟩

/-- A path begins with a slash. -/
theorem head?_pathText (cs : List Char) : (pathText cs).head? = some '/' := by
  obtain ⟨ss, hss, -, hpath⟩ := pathText_eq cs
  obtain ⟨s, rest, rfl⟩ := List.exists_cons_of_ne_nil hss
  rw [hpath]
  rfl

/-- Everything in a path may stand there. -/
theorem standsInPath_of_mem_pathText {cs : List Char} {c : Char} (hc : c ∈ pathText cs) :
    standsInPath c = true := by
  obtain ⟨ss, -, hnormal, hpath⟩ := pathText_eq cs
  rw [hpath] at hc
  obtain ⟨s, hs, hc⟩ := List.mem_flatMap.1 hc
  rcases List.mem_cons.1 hc with rfl | hc
  · rfl
  · exact (hnormal s hs).stands c hc

/-- The path of a URL is read as it is. -/
theorem pathText_pathText (cs : List Char) : pathText (pathText cs) = pathText cs := by
  obtain ⟨ss, hss, hnormal, hpath⟩ := pathText_eq cs
  rw [hpath, pathText, segments_flatMap hss fun s hs => (hnormal s hs).whole,
    resolved_of_normal hnormal]
  rfl

end PoolClient.Url
