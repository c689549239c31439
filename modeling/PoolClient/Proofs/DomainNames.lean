import PoolClient.Proofs.NumericHosts
/-!
# Domain names

The host names that the model looks up are in ASCII, and no character that may not stand in a name
stands in them (`AsciiName`, `asciiName_of_asciiDomain?`). A name in lower case that has no encoded
labels (`isOrdinary`) is looked up as it is (`asciiDomain?_of_ordinary`): its characters fold to
themselves, there is nothing to compose, and none of them runs from right to left.
-/

namespace PoolClient

open Number Text

/-! ## Tables -/

namespace Unicode

/-- The rows in one line of a table. -/
def lineRows (line : List Char) : List Row :=
  (pieces ',' line).map fun row => (pieces ' ' row).filterMap (numberIn 16)

/-- What holds of all rows is shown line by line. -/
theorem all_rows_cons {p : Row → Bool} {line : List Char} {lines : List String}
    (h : (lineRows line).all p = true) (hrest : (rows lines).all p = true) :
    (rows (String.ofList line :: lines)).all p = true := by
  have hrows : rows (String.ofList line :: lines) = lineRows line ++ rows lines := by
    simp only [rows, List.flatMap_cons, String.toList_ofList]
    rfl
  rw [hrows, List.all_append, h, hrest]
  rfl

theorem all_rows_nil {p : Row → Bool} : (rows []).all p = true := rfl

/-- Whether a row gives a character beyond ASCII that ends with one beyond ASCII. -/
def composesBeyondAscii : Row → Bool
  | [n, _, y] => 0x80 ≤ n && 0x80 ≤ y
  | _ => true

/-- Whether a row begins beyond ASCII. -/
def startsBeyondAscii : Row → Bool
  | first :: _ => 0x80 ≤ first
  | [] => true

theorem composesBeyondAscii_pairRows : pairRows.all composesBeyondAscii = true := by
  unfold pairRows
  repeat refine all_rows_cons (by decide +kernel) ?_
  exact all_rows_nil

theorem startsBeyondAscii_classRows : classRows.all startsBeyondAscii = true := by
  unfold classRows
  repeat refine all_rows_cons (by decide +kernel) ?_
  exact all_rows_nil

/-! ## Text in ASCII is composed -/

variable {c d : Char} {cs : List Char}

theorem pairOf?_eq_none (hc : c.toNat < 0x80) : pairOf? c = none := by
  rw [pairOf?, List.findSome?_eq_none_iff]
  intro row hrow
  have hbeyond := List.all_eq_true.1 composesBeyondAscii_pairRows row hrow
  split
  · simp only [composesBeyondAscii, Bool.and_eq_true, decide_eq_true_eq] at hbeyond
    rw [if_neg (by simpa using fun h => absurd hbeyond.1 (by omega))]
  · rfl

theorem ofPair?_eq_none (hd : d.toNat < 0x80) : ofPair? c d = none := by
  have hsyllable : syllable? c.toNat d.toNat = none := by
    simp only [syllable?, Bool.and_eq_true, decide_eq_true_eq]
    rw [if_neg (by omega), if_neg (by omega)]
  rw [ofPair?, hsyllable]
  simp only
  rw [List.findSome?_eq_none_iff]
  intro row hrow
  have hbeyond := List.all_eq_true.1 composesBeyondAscii_pairRows row hrow
  split
  · simp only [composesBeyondAscii, Bool.and_eq_true, decide_eq_true_eq] at hbeyond
    rw [if_neg]
    simp only [Bool.and_eq_true, beq_iff_eq]
    omega
  · rfl

theorem combiningClass_eq_zero (hc : c.toNat < 0x80) : combiningClass c = 0 := by
  rw [combiningClass, List.findSome?_eq_none_iff.2, Option.getD_none]
  intro row hrow
  have hbeyond := List.all_eq_true.1 startsBeyondAscii_classRows row hrow
  split
  · simp only [startsBeyondAscii, decide_eq_true_eq] at hbeyond
    rw [if_neg]
    simp only [Bool.and_eq_true, decide_eq_true_eq]
    omega
  · rfl

theorem joinedFrom_cons (c d : Char) (cs : List Char) :
    joinedFrom c [] (d :: cs) =
      match ofPair? c d with
      | some whole => joinedFrom whole [] cs
      | none =>
        if combiningClass d == 0 then c :: joinedFrom d [] cs else joinedFrom c [d] cs := rfl

theorem joinedFrom_eq_cons (hcs : ∀ d ∈ cs, d.toNat < 0x80) : joinedFrom c [] cs = c :: cs := by
  induction cs generalizing c with
  | nil => rfl
  | cons d cs ih =>
    obtain ⟨hd, hcs⟩ := List.forall_mem_cons.1 hcs
    rw [joinedFrom_cons, ofPair?_eq_none hd, combiningClass_eq_zero hd, ih hcs]
    rfl

theorem flatMap_apart (hcs : ∀ c ∈ cs, c.toNat < 0x80) : cs.flatMap (apart 3) = cs := by
  induction cs with
  | nil => rfl
  | cons c cs ih =>
    obtain ⟨hc, hcs⟩ := List.forall_mem_cons.1 hcs
    have hapart : apart 3 c = [c] := by
      rw [apart, pairOf?_eq_none hc]
    rw [List.flatMap_cons, hapart, ih hcs, List.singleton_append]

theorem foldl_settled (hcs : ∀ c ∈ cs, c.toNat < 0x80) (done : List Char) :
    cs.foldl (fun done c => settled c done) done = cs.reverse ++ done := by
  induction cs generalizing done with
  | nil => rfl
  | cons c cs ih =>
    obtain ⟨hc, hcs⟩ := List.forall_mem_cons.1 hcs
    have hsettled : settled c done = c :: done := by
      cases done with
      | nil => rfl
      | cons d before => simp [settled, combiningClass_eq_zero hc]
    rw [List.foldl_cons, hsettled, ih hcs, List.reverse_cons, List.append_assoc,
      List.singleton_append]

/-- There is nothing to compose in ASCII. -/
theorem composed_eq_self (hcs : ∀ c ∈ cs, c.toNat < 0x80) : composed cs = cs := by
  rw [composed, flatMap_apart hcs, foldl_settled hcs, List.append_nil, List.reverse_reverse]
  cases cs with
  | nil => rfl
  | cons c cs =>
    obtain ⟨hc, hcs⟩ := List.forall_mem_cons.1 hcs
    rw [joined, combiningClass_eq_zero hc]
    exact joinedFrom_eq_cons hcs

/-- Nothing in ASCII runs from right to left. -/
theorem isReversed_direction (hc : c.toNat < 0x80) : (direction c).isReversed = false := by
  rw [direction, if_pos hc]
  split
  · rfl
  · split <;> rfl

theorem mayStandTogether_of_ascii {labels : List (List Char)}
    (h : ∀ label ∈ labels, ∀ c ∈ label, c.toNat < 0x80) : mayStandTogether labels = true := by
  have hreversed : (labels.any (·.any fun c => (direction c).isReversed)) = false := by
    simpa using fun label hl c hc => isReversed_direction (h label hl c hc)
  rw [mayStandTogether, hreversed]
  rfl

end Unicode

namespace Url

/-! ## Encoded labels -/

namespace Punycode

/-- Only digits of encoded labels. -/
def AreDigits (cs : List Char) : Prop :=
  ∀ c ∈ cs, ∃ d : Fin 36, c = digit d

theorem areDigits_distanceDigits (bias k q : Nat) : AreDigits (distanceDigits bias k q) := by
  intro c hc
  fun_induction distanceDigits bias k q with
  | case1 k q t hq =>
    have ht : t ≤ 26 := threshold_le k bias
    exact ⟨⟨q, by omega⟩, List.mem_singleton.1 hc⟩
  | case2 k q t hq ih =>
    have ht : t ≤ 26 := threshold_le k bias
    have hmod : (q - t) % (36 - t) < 36 - t := Nat.mod_lt _ (by omega)
    rcases List.mem_cons.1 hc with hc | hc
    · exact ⟨⟨t + (q - t) % (36 - t), by omega⟩, hc⟩
    · exact ih hc

theorem areDigits_pass {w : Written} (h : AreDigits w.digits) (basics n : Nat) (c : Char) :
    AreDigits (w.pass basics n c).digits := by
  unfold Written.pass
  split
  · exact h
  split
  · exact fun c hc => (List.mem_append.1 hc).elim (h c) (areDigits_distanceDigits _ _ _ c)
  · exact h

theorem areDigits_foldl_pass {w : Written} (h : AreDigits w.digits) (basics n : Nat)
    (label : List Char) : AreDigits (label.foldl (Written.pass basics n) w).digits := by
  induction label generalizing w with
  | nil => exact h
  | cons c label ih => exact ih (areDigits_pass h basics n c)

/-- Whatever is passed, only digits are written. -/
theorem areDigits_writtenFrom (label : List Char) (basics : Nat) (points : List Nat) (n : Nat)
    {w : Written} (h : AreDigits w.digits) :
    AreDigits (writtenFrom label basics points n w).digits := by
  induction points generalizing n w with
  | nil => exact h
  | cons m rest ih =>
    have hpassed := areDigits_foldl_pass
      (w := { w with delta := w.delta + (m - n) * (w.count + 1) }) h basics m label
    exact ih (m + 1) hpassed

/-- A label is written with its own characters in ASCII, hyphens and digits. -/
theorem mem_encode {label : List Char} {c : Char} (hc : c ∈ encode label) :
    (c ∈ label ∧ isBasic c = true) ∨ c = '-' ∨ ∃ d : Fin 36, c = digit d := by
  rcases List.mem_append.1 hc with hc | hc
  · split at hc
    · cases hc
    · rcases List.mem_append.1 hc with hc | hc
      · exact .inl (List.mem_filter.1 hc)
      · exact .inr (.inl (List.mem_singleton.1 hc))
  · exact .inr (.inr (areDigits_writtenFrom _ _ _ _ (fun _ hd => absurd hd List.not_mem_nil) c hc))

end Punycode

/-! ## Names in ASCII -/

/-- A name in ASCII without characters that may not stand in a name. -/
def AsciiName (name : List Char) : Prop :=
  ∀ c ∈ name, Punycode.isBasic c = true ∧ isForbiddenInDomain c = false

theorem AsciiName.ne {name : List Char} {c d : Char} (h : AsciiName name) (hc : c ∈ name)
    (hd : isForbiddenInDomain d = true) : c ≠ d := by
  rintro rfl
  rw [(h c hc).2] at hd
  cases hd

theorem asciiName_asciiLabel {label : List Char}
    (h : ∀ c ∈ label, isForbiddenInDomain c = false) : AsciiName (asciiLabel label) := by
  have hdigit : ∀ d : Fin 36, Punycode.isBasic (Punycode.digit d) = true ∧
      isForbiddenInDomain (Punycode.digit d) = false := by decide
  intro c hc
  unfold asciiLabel at hc
  split at hc
  · rename_i hbasic
    exact ⟨List.all_eq_true.1 hbasic c hc, h c hc⟩
  · rcases List.mem_append.1 hc with hc | hc
    · have hmark : (encodedMark.all fun d =>
          Punycode.isBasic d && !isForbiddenInDomain d) = true := by decide
      simpa using List.all_eq_true.1 hmark c hc
    · rcases Punycode.mem_encode hc with ⟨hmem, hbasic⟩ | rfl | ⟨d, rfl⟩
      · exact ⟨hbasic, h c hmem⟩
      · decide
      · exact hdigit d

theorem asciiName_intercalate {ls : List (List Char)} (h : ∀ l ∈ ls, AsciiName l) :
    AsciiName (['.'].intercalate ls) := by
  match ls with
  | [] => exact List.forall_mem_nil _
  | [l] => simpa using h
  | l :: m :: ls =>
    obtain ⟨hl, hrest⟩ := List.forall_mem_cons.1 h
    rw [List.intercalate_cons_cons]
    intro c hc
    rcases List.mem_append.1 hc with hc | hc
    · rcases List.mem_append.1 hc with hc | hc
      · exact hl c hc
      · rw [List.mem_singleton.1 hc]
        decide
    · exact asciiName_intercalate hrest c hc

/-- What a name is looked up as is in ASCII, and nothing stands in it that may not. -/
theorem asciiName_of_asciiDomain? {cs name : List Char} (h : asciiDomain? cs = some name) :
    AsciiName name := by
  unfold asciiDomain? at h
  split at h
  · cases h
  · rename_i folded _
    simp only at h
    split at h
    · cases h
    · split at h
      · cases h
      · rename_i hstands
        cases h
        simp only [Bool.or_eq_true, not_or, Bool.not_eq_true, List.any_eq_false] at hstands
        refine asciiName_intercalate fun l hl => ?_
        obtain ⟨label, hlabel, rfl⟩ := List.mem_map.1 hl
        exact asciiName_asciiLabel fun c hc => hstands.1 c (subset_of_mem_pieces hlabel hc)

theorem characters_utf8EncodeChar {c : Char} (hc : c.toNat < 0x80) (bs : List UInt8) :
    Utf8.characters (String.utf8EncodeChar c ++ bs) = some c :: Utf8.characters bs := by
  have hbyte : String.utf8EncodeChar c = [UInt8.ofNat c.toNat] := by
    have hsmall : c.val.toNat ≤ 0x7f := Nat.le_of_lt_succ hc
    rw [String.utf8EncodeChar]
    simp only [hsmall, if_true]
    rfl
  have hlead : Utf8.lead (UInt8.ofNat c.toNat).toNat = .whole c := by
    have hmod : (UInt8.ofNat c.toNat).toNat = c.toNat := by
      rw [UInt8.toNat_ofNat']
      omega
    rw [hmod, Utf8.lead, if_pos hc, Char.ofNat_toNat]
  rw [hbyte, List.singleton_append, Utf8.characters, Utf8.charactersFrom, Utf8.step, hlead]
  rfl

/-- There are no escapes in a name in ASCII. -/
theorem strict?_unescaped {name : List Char} (h : AsciiName name) :
    Utf8.strict? (unescaped name) = some name := by
  have hcharacters : Utf8.characters (unescaped name) = name.map some := by
    induction name with
    | nil => rfl
    | cons c name ih =>
      obtain ⟨hc, hname⟩ := List.forall_mem_cons.1 h
      have hpercent : c ≠ '%' := h.ne List.mem_cons_self rfl
      rw [unescaped, characters_utf8EncodeChar (of_decide_eq_true hc.1), ih hname, List.map_cons]
      exact fun _ _ _ heq => absurd heq hpercent
  rw [Utf8.strict?, hcharacters]
  exact mapM_map_eq_some fun _ _ => rfl

/-! ## Ordinary names -/

/-- Whether a name is in lower case and has no encoded labels. -/
def isOrdinary (name : List Char) : Bool :=
  name.all (fun c => c.toLower == c) && (pieces '.' name).all (!encodedMark.isPrefixOf ·)

theorem isOrdinary_iff {name : List Char} : isOrdinary name = true ↔
    (∀ c ∈ name, c.toLower = c) ∧
      ∀ label ∈ pieces '.' name, encodedMark.isPrefixOf label = false := by
  simp [isOrdinary]

/-- An ordinary name is looked up as it is. -/
theorem asciiDomain?_of_ordinary {name : List Char} (hname : AsciiName name)
    (h : isOrdinary name = true) : asciiDomain? name = some name := by
  obtain ⟨hlower, hplain⟩ := isOrdinary_iff.1 h
  have hascii : ∀ c ∈ name, c.toNat < 0x80 := fun c hc => of_decide_eq_true (hname c hc).1
  have hbasic : ∀ label ∈ pieces '.' name, label.all Punycode.isBasic = true := fun label hl =>
    List.all_eq_true.2 fun c hc => (hname c (subset_of_mem_pieces hl hc)).1
  have hfolded : name.mapM Unicode.folded? = some (name.map fun c => [c]) :=
    mapM_eq_some_map fun c hc => by rw [Unicode.folded?, if_pos (hascii c hc), hlower c hc]
  have hflatten : (name.map fun c => [c]).flatten = name := List.flatMap_singleton' name
  have hlabels : (pieces '.' name).mapM labelCharacters? = some (pieces '.' name) := by
    have hlabel : ∀ label ∈ pieces '.' name, labelCharacters? label = some label :=
      fun label hl => by simp [labelCharacters?, hplain label hl, hbasic label hl]
    rw [mapM_eq_some_map (g := id) hlabel, List.map_id]
  have htogether : Unicode.mayStandTogether (pieces '.' name) = true :=
    Unicode.mayStandTogether_of_ascii fun label hl c hc => hascii c (subset_of_mem_pieces hl hc)
  have hstands : name.any isForbiddenInDomain = false := by
    simpa using fun c hc => (hname c hc).2
  have hunchanged : (pieces '.' name).map asciiLabel = pieces '.' name :=
    (List.map_congr_left fun label hl => by rw [asciiLabel, if_pos (hbasic label hl), id]).trans
      (List.map_id _)
  rw [asciiDomain?, hfolded]
  simp only [hflatten, Unicode.composed_eq_self hascii, hlabels, htogether, hstands, hunchanged]
  rw [pieces_eq_splitOn, List.intercalate_splitOn]
  rfl

end Url

end PoolClient
