import PoolClient.Message.Reading
import PoolClient.Proofs.Blanks
import PoolClient.Proofs.Outcomes
import PoolClient.Proofs.Tokens
/-!
# The end of the root

A document is read up to the end of its root. If the end tag of the root has its `>`, nothing that
follows is looked at. But a document may also break off inside that tag: what is added to it then
goes on with the tag (`closes_or_breaksOff`). So a message that was read is read alike with
anything behind it, unless its text breaks off inside the end tag of the root, and then just if
blanks alone come before the next `>` (`parse_append`).
-/

namespace PoolClient

open Markup Text

namespace Markup

/-! ## Names of end tags -/

theorem closingName_eq_dropEndWhile {name : List Char}
    (hname : ∃ c ∈ name, isMarkupBlank c = false) :
    closingName name = dropEndWhile isMarkupBlank name := by
  rw [closingName, List.isEmpty_eq_false_iff.2 (dropEndWhile_ne_nil hname), if_neg (by simp)]

theorem length_closingName_le (name : List Char) : (closingName name).length ≤ name.length := by
  rw [closingName]
  split
  · exact Nat.le_refl _
  · rw [dropEndWhile_eq]
    exact (List.rdropWhile_prefix isMarkupBlank name).length_le

/-- What is added to the name of an end tag makes another name, unless it is blank. -/
theorem all_of_closingName_append {name tail : List Char}
    (h : closingName (name ++ tail) = closingName name) : tail.all isMarkupBlank = true := by
  rw [List.all_eq_true]
  by_contra hall
  have hstays : ∃ c ∈ tail, isMarkupBlank c = false := by simpa using hall
  have hlonger : ∃ c ∈ name ++ tail, isMarkupBlank c = false := by
    obtain ⟨c, hc, hblank⟩ := hstays
    exact ⟨c, List.mem_append_right _ hc, hblank⟩
  rw [closingName_eq_dropEndWhile hlonger, dropEndWhile_append_of_mem hstays] at h
  -- the name would be longer than itself
  have hlength := length_closingName_le name
  have hpos := List.length_pos_iff.2 (dropEndWhile_ne_nil hstays)
  rw [← h, List.length_append] at hlength
  omega

theorem closingName_append_eq_iff {name : List Char} (hname : ∃ c ∈ name, isMarkupBlank c = false)
    (tail : List Char) :
    closingName (name ++ tail) = closingName name ↔ tail.all isMarkupBlank = true := by
  refine ⟨all_of_closingName_append, fun hall => ?_⟩
  have hlonger : ∃ c ∈ name ++ tail, isMarkupBlank c = false := by
    obtain ⟨c, hc, hblank⟩ := hname
    exact ⟨c, List.mem_append_left _ hc, hblank⟩
  rw [closingName_eq_dropEndWhile hname, closingName_eq_dropEndWhile hlonger]
  exact dropEndWhile_append (List.all_eq_true.1 hall) name

theorem mem_of_mem_closingName {name : List Char} {c : Char} (h : c ∈ closingName name) :
    c ∈ name := by
  simp only [closingName] at h
  split at h
  · exact h
  · rw [dropEndWhile_eq] at h
    exact (List.rdropWhile_prefix isMarkupBlank name).subset h

theorem mem_of_mem_localName {name : List Char} {c : Char} (h : c ∈ localName name) :
    c ∈ name := by
  unfold localName at h
  split at h
  · rename_i _ rest hdrop
    have hrest : c ∈ name.dropWhile (· != ':') := hdrop ▸ List.mem_cons_of_mem _ h
    exact (List.dropWhile_suffix _).subset hrest
  · exact h

/-! ## Reading to the end of the root -/

section

variable {openElements : List OpenElement} {cs : List Char} {root : Element}

/-- The root closes at a `>` of the text, whatever follows. -/
def Closes (openElements : List OpenElement) (cs : List Char) (root : Element) : Prop :=
  ∃ part after, cs = part ++ '>' :: after ∧ ∀ s, readOn openElements (part ++ '>' :: s) = .ok root

/-- The text breaks off inside the end tag of the root, and what follows goes on with that tag. -/
def BreaksOff (openElements : List OpenElement) (cs : List Char) (root : Element) : Prop :=
  ∃ part name, cs = part ++ '<' :: '/' :: name ∧ '>' ∉ name ∧
    root.name = String.ofList (localName (closingName name)) ∧
    ∀ s, readOn openElements (cs ++ s) =
      if closingName (name ++ s.takeWhile (· != '>')) = closingName name then .ok root
      else .error .malformed

theorem readOn_nil : readOn openElements [] = .error .unexpectedEnd := by
  rw [readOn]
  rfl

theorem readOn_of_going {outer : List OpenElement} {t : Token} {rest : List Char}
    (hnext : Token.next cs = .token t rest) (hact : act openElements t = .going outer) :
    readOn openElements cs = readOn outer rest := by
  rw [readOn_of_token hnext, hact]

/-- A token that leaves something is read alike before anything that begins in the same way. -/
theorem Token.Ends.next_append {t : Token} {rest : List Char} (h : t.Ends cs rest)
    (hrest : rest ≠ []) :
    ∃ front, cs = front ++ rest ∧
      ∀ more, more.head? = rest.head? → Token.next (front ++ more) = .token t more := by
  cases h with
  | @whole part _ _ h => exact ⟨part ++ ['>'], by simp, fun more _ => by simpa using h more⟩
  | @text raw tail hne hraw =>
    refine ⟨raw, rfl, fun more hmore => ?_⟩
    obtain ⟨more, rfl⟩ := List.head?_eq_some_iff.1 hmore
    exact next_text hne hraw more
  | lastText | cutAside | cutClosing => exact absurd rfl hrest

theorem Closes.of_going {outer : List OpenElement} {t : Token} {rest : List Char}
    (hends : t.Ends cs rest) (hact : act openElements t = .going outer)
    (h : Closes outer rest root) : Closes openElements cs root := by
  obtain ⟨part, after, rfl, hread⟩ := h
  obtain ⟨front, rfl, hnext⟩ := hends.next_append (by simp)
  refine ⟨front ++ part, after, by simp, fun s => ?_⟩
  have hhead : (part ++ '>' :: s).head? = (part ++ '>' :: after).head? := by
    cases part <;> rfl
  rw [List.append_assoc, readOn_of_going (hnext _ hhead) hact, hread]

theorem BreaksOff.of_going {outer : List OpenElement} {t : Token} {rest : List Char}
    (hends : t.Ends cs rest) (hact : act openElements t = .going outer)
    (h : BreaksOff outer rest root) : BreaksOff openElements cs root := by
  obtain ⟨part, name, rfl, hname, hroot, hread⟩ := h
  obtain ⟨front, rfl, hnext⟩ := hends.next_append (by simp)
  refine ⟨front ++ part, name, by simp, hname, hroot, fun s => ?_⟩
  have hhead : (part ++ '<' :: '/' :: name ++ s).head? = (part ++ '<' :: '/' :: name).head? := by
    cases part <;> rfl
  rw [List.append_assoc, readOn_of_going (hnext _ hhead) hact, hread]

theorem act_text_ne_complete (raw : List Char) : act openElements (.text raw) ≠ .complete root := by
  cases openElements with
  | nil => exact nofun
  | cons e outer =>
    simp only [act]
    split <;> exact nofun

theorem act_closing_eq_complete {name : List Char}
    (h : act openElements (.closing name) = .complete root) :
    ∃ e, openElements = [e] ∧ e.name = name ∧ root = e.close := by
  cases openElements with
  | nil => cases h
  | cons e outer =>
    rw [act] at h
    split at h
    · rename_i hname
      cases outer with
      | nil =>
        cases h
        exact ⟨e, rfl, hname, rfl⟩
      | cons _ _ => cases h
    · cases h

/-- An end tag that is cut off may close the root. -/
theorem breaksOff_of_complete {name : List Char} (hname : '>' ∉ name)
    (hact : act openElements (.closing (closingName name)) = .complete root) :
    BreaksOff openElements ('<' :: '/' :: name) root := by
  obtain ⟨e, rfl, hclosing, rfl⟩ := act_closing_eq_complete hact
  refine ⟨[], name, rfl, hname, by rw [← hclosing]; rfl, fun s => ?_⟩
  have htake : (name ++ s).takeWhile (· != '>') = name ++ s.takeWhile (· != '>') :=
    List.takeWhile_append_of_pos (bne_of_not_mem hname)
  have hnext : Token.next ('<' :: '/' :: (name ++ s)) =
      .token (.closing (closingName (name ++ s.takeWhile (· != '>'))))
        (upToClose (name ++ s)).2 := by
    rw [← htake]
    rfl
  rw [List.cons_append, List.cons_append, readOn_of_token hnext, act, hclosing]
  by_cases hsame : closingName name = closingName (name ++ s.takeWhile (· != '>'))
  · rw [if_pos hsame, if_pos hsame.symm]
    rfl
  · rw [if_neg hsame, if_neg (Ne.symm hsame)]

/-- A root that is read closes at a `>` of the text, or the text breaks off inside its end tag. -/
theorem closes_or_breaksOff (h : readOn openElements cs = .ok root) :
    Closes openElements cs root ∨ BreaksOff openElements cs root := by
  fun_induction readOn openElements cs with
  | case1 => cases h
  | case2 => cases h
  | case3 openElements cs t rest hnext outer hact ih =>
    have hends := ends_of_next hnext
    exact (ih h).imp (Closes.of_going hends hact) (BreaksOff.of_going hends hact)
  | case4 openElements cs t rest hnext root' hact =>
    cases h
    cases ends_of_next hnext with
    | @whole part rest _ hwhole =>
      refine .inl ⟨part, rest, rfl, fun s => ?_⟩
      rw [readOn_of_token (hwhole s), hact]
    | text | lastText => exact absurd hact (act_text_ne_complete _)
    | cutAside => cases hact
    | cutClosing hname => exact .inr (breaksOff_of_complete hname hact)
  | case5 => cases h

/-- What comes before the end tag that a text breaks off in is no document: its root would have
closed there already, or it would break off itself in a tag that the text goes on with. -/
theorem readOn_ne_ok_of_breaksOff {part name : List Char} {root' : Element}
    (h : ∀ s, readOn [] (part ++ '<' :: '/' :: name ++ s) =
      if closingName (name ++ s.takeWhile (· != '>')) = closingName name then .ok root
      else .error .malformed) : readOn [] part ≠ .ok root' := by
  intro hpart
  obtain ⟨before, after, rfl, hcloses⟩ | ⟨before, name', rfl, -, -, hcut⟩ :=
    closes_or_breaksOff hpart
  · have hother : closingName (name ++ ['x']) ≠ closingName name :=
      fun hsame => absurd (all_of_closingName_append hsame) (by decide)
    have hmore := h ['x']
    rw [List.append_assoc, List.append_assoc, List.cons_append, hcloses] at hmore
    exact absurd (hmore.trans (if_neg hother)) nofun
  · have htag : ('<' :: '/' :: name).takeWhile (· != '>') =
        '<' :: '/' :: name.takeWhile (· != '>') := rfl
    have hother : closingName (name' ++ '<' :: '/' :: name.takeWhile (· != '>')) ≠
        closingName name' := by
      intro hsame
      have hblank := List.all_eq_true.1 (all_of_closingName_append hsame) '<' List.mem_cons_self
      exact absurd hblank (by decide)
    have hwhole : readOn [] (before ++ '<' :: '/' :: name' ++ '<' :: '/' :: name) = .ok root := by
      simpa using h []
    rw [hcut, htag, if_neg hother] at hwhole
    cases hwhole

end

/-! ## Byte order marks -/

theorem dropMark_suffix (cs : List Char) : dropMark cs <:+ cs := by
  cases cs with
  | nil => exact List.suffix_rfl
  | cons c rest =>
    rw [dropMark]
    split
    · exact List.suffix_cons c rest
    · exact List.suffix_rfl

theorem dropMark_append {cs : List Char} (h : cs ≠ []) (s : List Char) :
    dropMark (cs ++ s) = dropMark cs ++ s := by
  obtain ⟨c, rest, rfl⟩ := List.exists_cons_of_ne_nil h
  rw [List.cons_append, dropMark, dropMark]
  split <;> rfl

end Markup

/-! ## Documents that break off -/

section

variable {d : String} {root : Element}

theorem rootElement_append (h : d ≠ "") (s : String) :
    rootElement (d ++ s) =
      (readOn [] (dropMark d.toList ++ s.toList)).mapError MessageError.ofMarkup := by
  rw [rootElement, readDocument, String.toList_append, dropMark_append (by simpa using h)]

theorem rootElement_eq_ok_iff :
    rootElement d = .ok root ↔ readOn [] (dropMark d.toList) = .ok root := by
  rw [rootElement, readDocument]
  cases readOn [] (dropMark d.toList) <;> simp [Except.mapError]

theorem ne_empty_of_rootElement (h : rootElement d = .ok root) : d ≠ "" := by
  rintro rfl
  rw [rootElement_eq_ok_iff, String.toList_empty, dropMark, readOn_nil] at h
  cases h

/-- The text breaks off inside the end tag of its root: an end tag stands behind its last `>`, and
what comes before that tag is no document. -/
def CutOff (d : String) : Prop :=
  ∃ part name, d = part ++ "</" ++ name ∧ '>' ∉ name.toList ∧ ∀ root, rootElement part ≠ .ok root

/-- A character that does not stand in the second part stands in the first. -/
theorem exists_of_append_eq {α : Type} {c : α} {part after front back : List α}
    (h : part ++ c :: after = front ++ back) (hback : c ∉ back) :
    ∃ rest, front = part ++ c :: rest := by
  obtain ⟨rest, rfl, hrest⟩ | ⟨rest, rfl, hrest⟩ := List.append_eq_append_iff.1 h
  · cases rest with
    | nil =>
      rw [List.nil_append] at hrest
      exact absurd (hrest ▸ List.mem_cons_self) hback
    | cons x rest =>
      obtain ⟨rfl, -⟩ := List.cons.inj hrest
      exact ⟨rest, rfl⟩
  · exact absurd (hrest ▸ List.mem_append_right _ List.mem_cons_self) hback

/-- A text whose root closes does not break off inside its end tag. -/
theorem not_cutOff_of_closes (h : Closes [] (dropMark d.toList) root) : ¬CutOff d := by
  rintro ⟨part, name, rfl, hname, hpart⟩
  obtain ⟨before, after, hcs, hcloses⟩ := h
  have htag : '>' ∉ '<' :: '/' :: name.toList := by simpa using hname
  have hd : (part ++ "</" ++ name).toList = part.toList ++ '<' :: '/' :: name.toList := by simp
  rw [hd] at hcs
  cases hempty : part.toList with
  | nil =>
    obtain ⟨front, hfront⟩ := dropMark_suffix ('<' :: '/' :: name.toList)
    rw [hempty, List.nil_append] at hcs
    rw [← hfront, hcs] at htag
    simp at htag
  | cons c rest =>
    rw [dropMark_append (by simp [hempty])] at hcs
    obtain ⟨rest, hrest⟩ := exists_of_append_eq hcs.symm htag
    exact hpart root (rootElement_eq_ok_iff.2 (hrest ▸ hcloses rest))

theorem cutOff_of_breaksOff (h : BreaksOff [] (dropMark d.toList) root) : CutOff d := by
  obtain ⟨part, name, hcs, hname, -, hmore⟩ := h
  obtain ⟨front, hfront⟩ := dropMark_suffix d.toList
  refine ⟨String.ofList (front ++ part), String.ofList name, ?_, by simpa using hname, ?_⟩
  · rw [← String.toList_inj, ← hfront, hcs]
    simp
  · intro root' hpart
    have hne : front ++ part ≠ [] := by simpa using ne_empty_of_rootElement hpart
    have hmark : dropMark (front ++ part) = part := by
      have hsplit :
          dropMark (front ++ part) ++ '<' :: '/' :: name = part ++ '<' :: '/' :: name := by
        rw [← dropMark_append hne, List.append_assoc, ← hcs, hfront]
      exact List.append_cancel_right hsplit
    rw [rootElement_eq_ok_iff, String.toList_ofList, hmark] at hpart
    exact readOn_ne_ok_of_breaksOff (hcs ▸ hmore) hpart

end

/-! ## Messages with more behind them -/

section

variable {α : Type} {read : String → Except MessageError α}
  {interpretRoot : Element → Except MessageError α} {d : String} {r : α}

/-- What becomes of a message when something is put behind the text `d` that it was read of. -/
structure WithMore (read : String → Except MessageError α) (d : String) (r : α) : Prop where
  /-- The message stays whatever follows, unless the text breaks off inside the end tag of its
  root. -/
  fixed_iff : (∀ s, read (d ++ s) = .ok r) ↔ ¬CutOff d
  /-- If it breaks off there, what follows goes on with the name in that tag. -/
  cut : CutOff d → ∀ s : String, read (d ++ s) =
    if (s.toList.takeWhile (· != '>')).all isMarkupBlank then .ok r else .error .malformed

/-- A root that can be interpreted has a name that is not blank. -/
def NamesRoot (interpretRoot : Element → Except MessageError α) : Prop :=
  ∀ root r, interpretRoot root = .ok r → ∃ c ∈ root.name.toList, isMarkupBlank c = false

/-- What follows the end of the root is not looked at. -/
theorem WithMore.of_closes {root : Element}
    (hread : ∀ s, read (d ++ s) = (rootElement (d ++ s)).bind interpretRoot) (hd : d ≠ "")
    (hr : interpretRoot root = .ok r) (h : Closes [] (dropMark d.toList) root) :
    WithMore read d r := by
  have hfixed : ∀ s, read (d ++ s) = .ok r := by
    obtain ⟨part, after, hcs, hcloses⟩ := h
    intro s
    rw [hread, rootElement_append hd, hcs, List.append_assoc, List.cons_append, hcloses]
    exact hr
  have hcut : ¬CutOff d := not_cutOff_of_closes h
  exact ⟨iff_of_true hfixed hcut, fun h => absurd h hcut⟩

/-- What follows an end tag that breaks off goes on with its name. -/
theorem WithMore.of_breaksOff {root : Element} (hroot : NamesRoot interpretRoot)
    (hread : ∀ s, read (d ++ s) = (rootElement (d ++ s)).bind interpretRoot) (hd : d ≠ "")
    (hr : interpretRoot root = .ok r) (h : BreaksOff [] (dropMark d.toList) root) :
    WithMore read d r := by
  have hcut : CutOff d := cutOff_of_breaksOff h
  obtain ⟨part, name, hcs, hname, hrootName, hmore⟩ := h
  obtain ⟨c, hc, hblank⟩ := hroot root r hr
  rw [hrootName, String.toList_ofList] at hc
  have hnamed : ∃ c ∈ name, isMarkupBlank c = false :=
    ⟨c, mem_of_mem_closingName (mem_of_mem_localName hc), hblank⟩
  have hgoesOn : ∀ s : String, read (d ++ s) =
      if (s.toList.takeWhile (· != '>')).all isMarkupBlank then .ok r else .error .malformed := by
    intro s
    rw [hread, rootElement_append hd, hmore]
    simp only [closingName_append_eq_iff hnamed]
    split
    · exact hr
    · rfl
  refine ⟨iff_of_false (fun hfixed => ?_) (not_not_intro hcut), fun _ => hgoesOn⟩
  have hother := hgoesOn "x"
  rw [hfixed] at hother
  cases hother

theorem withMore_of_read (hroot : NamesRoot interpretRoot)
    (hread : ∀ s, read (d ++ s) = (rootElement (d ++ s)).bind interpretRoot) (h : read d = .ok r) :
    WithMore read d r := by
  rw [← String.append_empty (s := d), hread, String.append_empty] at h
  obtain ⟨root, hdocument, hr⟩ := bind_eq_ok h
  have hd : d ≠ "" := ne_empty_of_rootElement hdocument
  obtain hcloses | hbreaks := closes_or_breaksOff (rootElement_eq_ok_iff.1 hdocument)
  · exact .of_closes hread hd hr hcloses
  · exact .of_breaksOff hroot hread hd hr hbreaks

end

/-! ### Values, calls and responses -/

theorem namesRoot_interpret : NamesRoot interpret := by
  intro root v h
  rw [interpret_eq] at h
  split at h
  · cases h
  · rename_i hname
    rw [not_not.1 hname]
    exact ⟨'v', by decide, by decide⟩

theorem namesRoot_call : NamesRoot MethodCall.ofElement := by
  intro root call h
  have hname : root.name = "methodCall" := by
    by_contra hname
    rw [MethodCall.ofElement, if_pos hname] at h
    cases h
  rw [hname]
  exact ⟨'m', by decide, by decide⟩

theorem namesRoot_response : NamesRoot Response.ofElement := by
  intro root response h
  have hname : root.name = "methodResponse" := by
    by_contra hname
    rw [Response.ofElement, if_pos hname] at h
    cases h
  rw [hname]
  exact ⟨'m', by decide, by decide⟩

theorem parseValue_append {d : String} (h : d.toList.all isBlank = false) (s : String) :
    parseValue (d ++ s) = (rootElement (d ++ s)).bind interpret := by
  rw [parseValue, String.toList_append, List.all_append, h]
  rfl

/-- What was read of a response, a call or a value stays the same with anything behind it, unless
the text breaks off inside the end tag of its root. -/
theorem parse_append (d : String) :
    (∀ r, parseResponse d = .ok r → WithMore parseResponse d r) ∧
      (∀ call, parseCall d = .ok call → WithMore parseCall d call) ∧
      (d.toList.all isBlank = false → ∀ v, parseValue d = .ok v → WithMore parseValue d v) :=
  ⟨fun _ => withMore_of_read namesRoot_response fun _ => rfl,
    fun _ => withMore_of_read namesRoot_call fun _ => rfl,
    fun hblank _ => withMore_of_read namesRoot_interpret (parseValue_append hblank)⟩

/-- A value without the last character of its end tag is read, but not with a comment behind it. -/
theorem parse_append_cut :
    parseValue "<value></value" = .ok (.string "") ∧
      parseValue "<value></value<!-- note -->" = .error .malformed ∧
      CutOff "<value></value" := by
  have hopen : ∀ cs, Token.next ("<value>".toList ++ cs) = .token (.opening "value".toList) cs :=
    fun _ => rfl
  have hclose : Token.next "</value".toList = .token (.closing "value".toList) [] := by
    decide +kernel
  have hother : Token.next "</value<!-- note -->".toList =
      .token (.closing "value<!-- note --".toList) [] := by decide +kernel
  have hread : parseValue "<value></value" = .ok (.string "") := by
    have hroot : readOn [] ("<value>".toList ++ "</value".toList) = .ok ⟨"value", []⟩ := by
      rw [readOn_of_token (hopen _)]
      simp only [act]
      rw [readOn_of_token hclose]
      rfl
    have hvalue : parseValue "<value></value" = interpret ⟨"value", []⟩ :=
      congrArg (fun root => (root.mapError MessageError.ofMarkup).bind interpret) hroot
    rw [hvalue, interpret_eq]
    rfl
  have hmore : parseValue "<value></value<!-- note -->" = .error .malformed := by
    have hroot : readOn [] ("<value>".toList ++ "</value<!-- note -->".toList) =
        .error .malformed := by
      rw [readOn_of_token (hopen _)]
      simp only [act]
      rw [readOn_of_token hother]
      rfl
    exact congrArg (fun root => (root.mapError MessageError.ofMarkup).bind interpret) hroot
  have hwithMore : WithMore parseValue "<value></value" (.string "") :=
    (parse_append _).2.2 (by decide +kernel) _ hread
  refine ⟨hread, hmore, ?_⟩
  by_contra hcut
  have hsame : parseValue "<value></value<!-- note -->" = .ok (.string "") :=
    hwithMore.fixed_iff.2 hcut "<!-- note -->"
  rw [hmore] at hsame
  cases hsame

end PoolClient
