import Mathlib.Data.List.TakeWhile
import PoolClient.Markup.Document
import PoolClient.Proofs.Tokens
/-!
# Written trees

`Writing nodes cs` says that `cs` is a way to write some items of content: elements between
their tags, or as one tag if they are empty, and escaped text. Reading such a text inside an
element gives exactly these items (`Writing.readUpToTag`), and so the reader of documents gives
back the element around it (`readOn_tagged`).
-/

namespace PoolClient.Markup

open PoolClient.Text

/-! ## Names of elements -/

/-- A name that can stand in a tag and has no prefix: none of the marks by which a tag ends or
tells its kind, no quotes and no blanks. -/
def IsTagName (name : List Char) : Prop :=
  name ≠ [] ∧ ∀ c ∈ name, c ∉ ">/!?:\"'".toList ∧ isMarkupBlank c = false

-- The instance for lists is named: another one in scope would try every character there is.
instance (name : List Char) : Decidable (IsTagName name) :=
  @instDecidableAnd _ _ inferInstance (List.decidableBAll _ name)

namespace IsTagName

variable {name rest : List Char}

theorem ne_of_mem (h : IsTagName name) {c d : Char} (hc : c ∈ name)
    (hd : d ∈ ">/!?:\"'".toList) : c ≠ d := by
  rintro rfl
  exact (h.2 c hc).1 hd

/-- The inside of a tag goes up to its end if no quote is opened. -/
theorem tagBody_append {body : List Char} (h : ∀ c ∈ body, c ≠ '>' ∧ c ≠ '"' ∧ c ≠ '\'')
    (rest : List Char) :
    tagBody none (body ++ '>' :: rest) = some (body, rest) := by
  induction body with
  | nil => rfl
  | cons c body ih =>
    obtain ⟨hend, hdouble, hsingle⟩ := h c (by simp)
    have htail := ih fun d hd => h d (by simp [hd])
    simp [tagBody, hend, hdouble, hsingle, htail]

theorem takeWhile_eq (h : IsTagName name) : name.takeWhile (!isMarkupBlank ·) = name := by
  rw [List.takeWhile_eq_self_iff]
  intro c hc
  simp [(h.2 c hc).2]

theorem startToken_eq (h : IsTagName name) : startToken name = .opening name := by
  have hlast : name.getLast? ≠ some '/' := fun hlast =>
    h.ne_of_mem (List.mem_of_getLast? hlast) (by decide) rfl
  simp [startToken, hlast, h.takeWhile_eq]

theorem startToken_slash (h : IsTagName name) : startToken (name ++ ['/']) = .empty name := by
  have htake : (name ++ ['/']).takeWhile (!isMarkupBlank ·) = name ++ ['/'] := by
    rw [List.takeWhile_eq_self_iff]
    intro c hc
    rcases List.mem_append.1 hc with hc | hc
    · simp [(h.2 c hc).2]
    · rw [List.mem_singleton.1 hc]
      rfl
  simp only [startToken, htake]
  simp

theorem closingName_eq (h : IsTagName name) : closingName name = name := by
  have hreverse : name.reverse.dropWhile isMarkupBlank = name.reverse := by
    cases hcs : name.reverse with
    | nil => rfl
    | cons c cs =>
      have hc : c ∈ name := by
        rw [← List.mem_reverse, hcs]
        exact List.mem_cons_self
      exact List.dropWhile_cons_of_neg (by simp [(h.2 c hc).2])
  simp [closingName, dropEndWhile, hreverse, h.1]

theorem localName_eq (h : IsTagName name) : localName name = name := by
  have hdrop : name.dropWhile (· != ':') = [] := by
    rw [List.dropWhile_eq_nil_iff]
    intro c hc
    simpa using h.ne_of_mem hc (by decide)
  rw [localName, hdrop]

/-- A name after `<` begins a tag, up to where its inside ends. -/
theorem tag_append (h : IsTagName name) {more body : List Char}
    (hbody : tagBody none (name ++ more) = some (body, rest)) :
    tag (name ++ more) = .token (startToken body) rest := by
  obtain ⟨c, cs, rfl⟩ := List.exists_cons_of_ne_nil h.1
  have hc : ∀ d ∈ ">/!?:\"'".toList, c ≠ d := fun d => h.ne_of_mem List.mem_cons_self
  rw [List.cons_append] at hbody ⊢
  rw [tag_of_ne (hc '!' (by decide)) (hc '/' (by decide)) (hc '?' (by decide)), hbody]

/-- What stands in a name neither ends a tag nor opens a quote. -/
theorem ne_close (h : IsTagName name) : ∀ c ∈ name, c ≠ '>' ∧ c ≠ '"' ∧ c ≠ '\'' :=
  fun _ hc => ⟨h.ne_of_mem hc (by decide), h.ne_of_mem hc (by decide), h.ne_of_mem hc (by decide)⟩

theorem next_opening (h : IsTagName name) :
    Token.next ('<' :: (name ++ '>' :: rest)) = .token (.opening name) rest := by
  rw [Token.next, h.tag_append (tagBody_append h.ne_close _), h.startToken_eq]

theorem next_empty (h : IsTagName name) :
    Token.next ('<' :: (name ++ '/' :: '>' :: rest)) = .token (.empty name) rest := by
  have hbody : tagBody none (name ++ '/' :: '>' :: rest) = some (name ++ ['/'], rest) := by
    have hslash : ∀ c ∈ name ++ ['/'], c ≠ '>' ∧ c ≠ '"' ∧ c ≠ '\'' := by
      intro c hc
      rcases List.mem_append.1 hc with hc | hc
      · exact h.ne_close c hc
      · rw [List.mem_singleton.1 hc]
        decide
    simpa using tagBody_append hslash rest
  rw [Token.next, h.tag_append hbody, h.startToken_slash]

theorem next_closing (h : IsTagName name) :
    Token.next ('<' :: '/' :: (name ++ '>' :: rest)) = .token (.closing name) rest := by
  have hclose : '>' ∉ name := fun hmem => (h.ne_close _ hmem).1 rfl
  simp only [Token.next, tag, upToClose_append hclose, h.closingName_eq]

end IsTagName

/-! ## Text between tags -/

theorem ne_open_of_mem_escapeChar {c d : Char} (hd : d ∈ escapeChar c) : d ≠ '<' := by
  unfold escapeChar at hd
  split at hd
  case h_6 h _ _ _ _ =>
    rw [List.mem_singleton.1 hd]
    exact h
  all_goals
    rintro rfl
    revert hd
    decide

theorem ne_open_of_mem_escape {cs : List Char} {d : Char} (hd : d ∈ escape cs) : d ≠ '<' := by
  obtain ⟨c, -, hd⟩ := List.mem_flatMap.1 hd
  exact ne_open_of_mem_escapeChar hd

theorem escapeChar_ne_nil (c : Char) : escapeChar c ≠ [] := by
  unfold escapeChar
  split <;> simp

theorem escape_ne_nil {cs : List Char} (h : cs ≠ []) : escape cs ≠ [] := by
  obtain ⟨c, cs, rfl⟩ := List.exists_cons_of_ne_nil h
  rw [escape, List.flatMap_cons]
  exact List.append_ne_nil_of_left_ne_nil (escapeChar_ne_nil c) _

/-! ## Writings -/

/-- Whether content begins with text. -/
def beginsWithText : List Node → Bool
  | .text _ :: _ => true
  | _ => false

/-- The text is a way to write the content. Text that follows text would run into it. -/
inductive Writing : List Node → List Char → Prop where
  | nil : Writing [] []
  | text {s : String} {nodes : List Node} {cs : List Char} (hs : s ≠ "")
      (hnodes : beginsWithText nodes = false) (h : Writing nodes cs) :
      Writing (.text s :: nodes) (escape s.toList ++ cs)
  | element {name : String} {children nodes : List Node} {body cs : List Char}
      (hname : IsTagName name.toList) (hbody : Writing children body) (h : Writing nodes cs) :
      Writing (.element name children :: nodes) (tagged name body ++ cs)
  | empty {name : String} {nodes : List Node} {cs : List Char}
      (hname : IsTagName name.toList) (h : Writing nodes cs) :
      Writing (.element name [] :: nodes) (['<'] ++ name.toList ++ ['/', '>'] ++ cs)

namespace Writing

variable {name : String} {children nodes : List Node} {body cs : List Char}

/-- Content that does not begin with text is written with a tag in front. -/
theorem append_open_eq (h : Writing nodes cs) (hnodes : beginsWithText nodes = false)
    (rest : List Char) : ∃ tail, cs ++ '<' :: rest = '<' :: tail := by
  cases h with
  | nil => exact ⟨_, rfl⟩
  | text hs hnodes' h => cases hnodes
  | element hname hbody h => exact ⟨_, by simp only [tagged, List.append_assoc]; rfl⟩
  | empty hname h => exact ⟨_, by simp only [List.append_assoc]; rfl⟩

/-- One element between its tags. -/
theorem single (hname : IsTagName name.toList) (hbody : Writing children body) :
    Writing [.element name children] (tagged name body) := by
  simpa using element hname hbody .nil

/-- Text alone, or nothing if it is empty. -/
theorem ofText (s : String) :
    Writing (if s = "" then [] else [.text s]) (escape s.toList) := by
  split
  · rename_i hs
    subst hs
    exact .nil
  · rename_i hs
    simpa using text hs rfl nil

theorem append {nodes' : List Node} {cs' : List Char} (h : Writing nodes cs)
    (h' : Writing nodes' cs') (hnodes' : beginsWithText nodes' = false) :
    Writing (nodes ++ nodes') (cs ++ cs') := by
  induction h with
  | nil => exact h'
  | @text s nodes cs hs hnodes h ih =>
    rw [List.append_assoc]
    refine text hs ?_ ih
    cases nodes with
    | nil => exact hnodes'
    | cons node nodes => cases node <;> exact hnodes
  | element hname hbody h _ ih =>
    rw [List.append_assoc]
    exact element hname hbody ih
  | empty hname h ih =>
    rw [List.append_assoc]
    exact empty hname ih

end Writing

/-! ## Reading inside an element -/

/-- An element that has been read whole. -/
theorem close_eq {name : String} (hname : IsTagName name.toList) (children : List Node) :
    OpenElement.close ⟨name.toList, children.reverse⟩ = ⟨name, children⟩ := by
  simp [OpenElement.close, hname.localName_eq]

/-- The element with more items behind its content so far. -/
def OpenElement.add (e : OpenElement) (nodes : List Node) : OpenElement :=
  { e with content := nodes.reverse ++ e.content }

theorem OpenElement.add_append (e : OpenElement) (nodes nodes' : List Node) :
    e.add (nodes ++ nodes') = (e.add nodes).add nodes' := by
  simp [OpenElement.add]

/-- Inside an element, the text is read as these items, whatever follows it. -/
def ReadWhole (nodes : List Node) (cs : List Char) : Prop :=
  ∀ (e : OpenElement) (outer : List OpenElement) (rest : List Char),
    readOn (e :: outer) (cs ++ rest) = readOn (e.add nodes :: outer) rest

/-- Inside an element, the text is read as these items if a tag follows it. Text at its end would
run into other text. -/
def ReadUpToTag (nodes : List Node) (cs : List Char) : Prop :=
  ∀ (e : OpenElement) (outer : List OpenElement) (rest : List Char),
    readOn (e :: outer) (cs ++ '<' :: rest) = readOn (e.add nodes :: outer) ('<' :: rest)

section

variable {nodes nodes' children : List Node} {cs cs' body : List Char} {name : String}

theorem readUpToTag_nil : ReadUpToTag [] [] :=
  fun _ _ _ => rfl

theorem ReadWhole.upToTag (h : ReadWhole nodes cs) : ReadUpToTag nodes cs :=
  fun e outer rest => h e outer ('<' :: rest)

theorem ReadWhole.append (h : ReadWhole nodes cs) (h' : ReadUpToTag nodes' cs') :
    ReadUpToTag (nodes ++ nodes') (cs ++ cs') := by
  intro e outer rest
  rw [List.append_assoc, h, h', OpenElement.add_append]

/-- What begins with a tag may follow text. -/
theorem ReadUpToTag.append (h : ReadUpToTag nodes cs) (h' : ReadUpToTag nodes' cs')
    (hopen : ∀ rest, ∃ tail, cs' ++ '<' :: rest = '<' :: tail) :
    ReadUpToTag (nodes ++ nodes') (cs ++ cs') := by
  intro e outer rest
  obtain ⟨tail, htail⟩ := hopen rest
  rw [List.append_assoc, htail, h, ← htail, h', OpenElement.add_append]

/-- A token that adds some items to the element around it. -/
theorem readWhole_of_next {t : Token} (hnext : ∀ rest, Token.next (cs ++ rest) = .token t rest)
    (hact : ∀ e outer, act (e :: outer) t = .going (e.add nodes :: outer)) :
    ReadWhole nodes cs := by
  intro e outer rest
  rw [readOn_of_token (hnext rest), hact]

theorem readUpToTag_text {s : String} (hs : s ≠ "") : ReadUpToTag [.text s] (escape s.toList) := by
  intro e outer rest
  have hne : escape s.toList ≠ [] := escape_ne_nil (by simpa using hs)
  rw [readOn_of_token (next_text hne (fun hmem => ne_open_of_mem_escape hmem rfl) rest)]
  simp only [act, unescape_escape, String.ofList_toList]
  rfl

/-- An element between its tags goes where it stands. -/
theorem readOn_tagged_append (hname : IsTagName name.toList) (hbody : ReadUpToTag children body)
    (outer : List OpenElement) (rest : List Char) :
    readOn outer (tagged name body ++ rest) = match settle ⟨name, children⟩ outer with
      | .going openElements => readOn openElements rest
      | .complete root => .ok root
      | .malformed => .error .malformed := by
  have hsplit : tagged name body ++ rest =
      '<' :: (name.toList ++ '>' :: (body ++ '<' :: ('/' :: (name.toList ++ '>' :: rest)))) := by
    simp [tagged]
  have hclose : (OpenElement.add ⟨name.toList, []⟩ children).close = ⟨name, children⟩ := by
    rw [← close_eq hname, OpenElement.add, List.append_nil]
  have hact : act (OpenElement.add ⟨name.toList, []⟩ children :: outer) (.closing name.toList) =
      settle ⟨name, children⟩ outer := by
    rw [← hclose]
    exact if_pos rfl
  have hend : readOn (OpenElement.add ⟨name.toList, []⟩ children :: outer)
      ('<' :: '/' :: (name.toList ++ '>' :: rest)) = _ := readOn_of_token hname.next_closing
  rw [hact] at hend
  rw [hsplit, readOn_of_token hname.next_opening]
  simp only [act]
  rw [hbody]
  exact hend

theorem readWhole_tagged (hname : IsTagName name.toList) (hbody : ReadUpToTag children body) :
    ReadWhole [.element name children] (tagged name body) :=
  fun e outer rest => readOn_tagged_append hname hbody (e :: outer) rest

/-- An element is read as the root of a document, whatever follows it. -/
theorem readOn_tagged (hname : IsTagName name.toList) (hbody : ReadUpToTag children body)
    (rest : List Char) : readOn [] (tagged name body ++ rest) = .ok ⟨name, children⟩ :=
  readOn_tagged_append hname hbody [] rest

theorem readWhole_empty (hname : IsTagName name.toList) :
    ReadWhole [.element name []] (['<'] ++ name.toList ++ ['/', '>']) := by
  refine readWhole_of_next (t := .empty name.toList) (fun rest => ?_) fun e outer => ?_
  · simpa using hname.next_empty
  · have hclose := close_eq hname []
    rw [List.reverse_nil] at hclose
    rw [act, hclose]
    rfl

end

/-- Written content is read as it was. -/
theorem Writing.readUpToTag {nodes : List Node} {cs : List Char} (h : Writing nodes cs) :
    ReadUpToTag nodes cs := by
  induction h with
  | nil => exact readUpToTag_nil
  | text hs hnodes h ih => exact (readUpToTag_text hs).append ih (h.append_open_eq hnodes)
  | element hname _ _ ihbody ih => exact (readWhole_tagged hname ihbody).append ih
  | empty hname _ ih => exact (readWhole_empty hname).append ih

end PoolClient.Markup
