import PoolClient.Proofs.Serialization
/-!
# Trees in every written form

A tree can be written in several ways: a writer is free to give an element without content as one
tag, at some places and not at others (`Node.writeWith`), and it may put a declaration and blanks in
front of the root (`Preamble`). If elements have proper names, and texts are neither empty nor next
to each other (`Node.isProper`), then the reader of documents gives back the tree, whichever way it
is written (`readDocument_writeWith`).
-/

namespace PoolClient.Markup

open PoolClient.Text

/-! ## Names -/

/-- The ranges of characters that may begin a name without a prefix. -/
def nameStartRanges : List (Nat × Nat) :=
  [(0x41, 0x5a), (0x5f, 0x5f), (0x61, 0x7a), (0xc0, 0xd6), (0xd8, 0xf6), (0xf8, 0x2ff),
    (0x370, 0x37d), (0x37f, 0x1fff), (0x200c, 0x200d), (0x2070, 0x218f), (0x2c00, 0x2fef),
    (0x3001, 0xd7ff), (0xf900, 0xfdcf), (0xfdf0, 0xfffd), (0x10000, 0xeffff)]

/-- The ranges of characters that may stand in a name without a prefix. -/
def nameRanges : List (Nat × Nat) :=
  nameStartRanges ++ [(0x2d, 0x2e), (0x30, 0x39), (0xb7, 0xb7), (0x300, 0x36f), (0x203f, 0x2040)]

/-- Whether a character is in one of some ranges. -/
def inRanges (ranges : List (Nat × Nat)) (c : Char) : Bool :=
  ranges.any fun r => r.1 ≤ c.toNat && c.toNat ≤ r.2

/-- Whether a text is a name without a prefix. -/
def isName : List Char → Bool
  | [] => false
  | c :: rest => inRanges nameStartRanges c && rest.all (inRanges nameRanges)

theorem inRanges_of_mem_name {name : List Char} (h : isName name = true) :
    ∀ c ∈ name, inRanges nameRanges c = true := by
  cases name with
  | nil => cases h
  | cons c rest =>
    obtain ⟨hc, hrest⟩ := Bool.and_eq_true_iff.1 h
    refine List.forall_mem_cons.2 ⟨?_, List.all_eq_true.1 hrest⟩
    rw [inRanges, nameRanges, List.any_append]
    exact Bool.or_eq_true_iff.2 (.inl hc)

/-- No character of a name is a mark of a tag, a quote or a blank. -/
theorem isTagName_of_isName {name : List Char} (h : isName name = true) : IsTagName name := by
  have hne : ∀ c ∈ name, ∀ d, inRanges nameRanges d = false → c ≠ d := by
    rintro c hc _ hd rfl
    rw [inRanges_of_mem_name h c hc] at hd
    cases hd
  have hmarks : (">/!?:\"'".toList.all (!inRanges nameRanges ·)) = true := by decide
  have hfirst : name ≠ [] := by
    intro hnil
    rw [hnil] at h
    cases h
  refine ⟨hfirst, fun c hc => ⟨fun hmem => ?_, ?_⟩⟩
  · exact hne c hc c (by simpa using List.all_eq_true.1 hmarks c hmem) rfl
  have hspace := hne c hc ' ' rfl
  have htab := hne c hc '\t' rfl
  have hline := hne c hc '\n' rfl
  have hreturn := hne c hc '\r' rfl
  simp [isMarkupBlank, hspace, htab, hline, hreturn]

/-! ## Trees and their written forms -/

mutual

/-- Whether an item of content can be written: names are names, no text is empty, and no text is
next to another. -/
def Node.isProper : Node → Bool
  | .text s => s != ""
  | .element name children => isName name.toList && areProper children

/-- Whether items of content can be written one after another. -/
def areProper : List Node → Bool
  | [] => true
  | node :: rest =>
    node.isProper && !(beginsWithText [node] && beginsWithText rest) && areProper rest

end

/-- Where an item stands: which child of the root leads to it, which child of that, and so on. -/
abbrev Place := List Nat

mutual

/-- An item of content, where an element without content is one tag at the places of `short`. -/
def Node.writeWith (short : Place → Bool) : Node → List Char
  | .text s => escape s.toList
  | .element name children =>
    if children.isEmpty && short [] then ['<'] ++ name.toList ++ ['/', '>']
    else tagged name (writeContentWith (fun n place => short (n :: place)) children)

/-- Items of content, one after another. The first of them is child number zero. -/
def writeContentWith (short : Nat → Place → Bool) : List Node → List Char
  | [] => []
  | node :: rest => node.writeWith (short 0) ++ writeContentWith (fun n => short (n + 1)) rest

end

mutual

/-- A proper item in front of content that is written already. -/
theorem Node.writing_writeWith : ∀ (node : Node) (short : Place → Bool) {nodes : List Node}
    {cs : List Char}, node.isProper = true →
    (beginsWithText [node] && beginsWithText nodes) = false → Writing nodes cs →
    Writing (node :: nodes) (node.writeWith short ++ cs)
  | .text s, short, nodes, cs, hnode, hapart, h => by
    have hs : s ≠ "" := by simpa [Node.isProper] using hnode
    have hnodes : beginsWithText nodes = false := by simpa [beginsWithText] using hapart
    rw [Node.writeWith]
    exact .text hs hnodes h
  | .element name children, short, nodes, cs, hnode, _, h => by
    rw [Node.isProper, Bool.and_eq_true] at hnode
    obtain ⟨hname, hchildren⟩ := hnode
    have hname := isTagName_of_isName hname
    rw [Node.writeWith]
    split
    · rename_i hshort
      have hempty : children = [] := by simpa using (Bool.and_eq_true_iff.1 hshort).1
      subst hempty
      exact .empty hname h
    · exact .element hname (writing_writeContentWith children _ hchildren) h

/-- Proper content is written as the writings of its tree say. -/
theorem writing_writeContentWith : ∀ (nodes : List Node) (short : Nat → Place → Bool),
    areProper nodes = true → Writing nodes (writeContentWith short nodes)
  | [], _, _ => by
    rw [writeContentWith]
    exact .nil
  | node :: rest, short, h => by
    rw [areProper, Bool.and_eq_true, Bool.and_eq_true, Bool.not_eq_true'] at h
    obtain ⟨⟨hnode, hapart⟩, hrest⟩ := h
    rw [writeContentWith]
    exact node.writing_writeWith _ hnode hapart (writing_writeContentWith rest _ hrest)

end

/-! ## In front of the root -/

/-- What stands in front of the root: a declaration, given by what follows its `<?xml`, and blanks.
Either may be missing. -/
structure Preamble where
  declaration : Option (List Char)
  blanks : List Char

/-- Whether the declaration goes up to its own end, and nothing but blanks follow it. -/
def Preamble.isProper (p : Preamble) : Bool :=
  p.declaration.all (!·.contains '>') && p.blanks.all isMarkupBlank

/-- The preamble as it stands in a document. -/
def Preamble.write (p : Preamble) : List Char :=
  (match p.declaration with
    | some inside => "<?xml".toList ++ inside ++ "?>".toList
    | none => []) ++ p.blanks

/-- A declaration ends in its question mark. -/
theorem next_declaration {inside : List Char} (h : '>' ∉ inside) (rest : List Char) :
    Token.next ("<?xml".toList ++ inside ++ "?>".toList ++ rest) = .token .aside rest := by
  have hbody : '>' ∉ "xml".toList ++ inside ++ ['?'] := by simp [h]
  have hsplit : Token.next ("<?xml".toList ++ inside ++ "?>".toList ++ rest) =
      tag ('?' :: ("xml".toList ++ inside ++ ['?'] ++ '>' :: rest)) := by
    simp [Token.next]
  have hend : 1 < ("xml".toList ++ inside ++ ['?']).length ∧
      ("xml".toList ++ inside ++ ['?']).getLast? = some '?' := by
    refine ⟨?_, by simp only [List.getLast?_append, List.getLast?_singleton]; rfl⟩
    simp only [List.length_append, List.length_singleton]
    exact Nat.lt_add_of_pos_left (Nat.add_pos_left (by decide) _)
  rw [hsplit, tag, upToClose_append hbody]
  exact if_pos hend

/-- Blanks in front of the root are lost. -/
theorem readOn_blanks {blanks : List Char} (h : ∀ c ∈ blanks, isMarkupBlank c = true)
    (rest : List Char) : readOn [] (blanks ++ '<' :: rest) = readOn [] ('<' :: rest) := by
  by_cases hblanks : blanks = []
  · rw [hblanks, List.nil_append]
  · have hopen : '<' ∉ blanks := fun hmem => absurd (h _ hmem) (by decide)
    rw [readOn_of_token (next_text hblanks hopen rest)]
    rfl

/-- A preamble is passed over. -/
theorem readOn_preamble_write {p : Preamble} (h : p.isProper = true) (rest : List Char) :
    readOn [] (p.write ++ '<' :: rest) = readOn [] ('<' :: rest) := by
  rw [Preamble.isProper, Bool.and_eq_true, List.all_eq_true] at h
  obtain ⟨hdeclaration, hblanks⟩ := h
  rw [← readOn_blanks hblanks rest, Preamble.write]
  cases hp : p.declaration with
  | none => rw [List.nil_append]
  | some inside =>
    have hinside : '>' ∉ inside := by simpa [hp] using hdeclaration
    rw [List.append_assoc, readOn_of_token (next_declaration hinside _)]
    rfl

/-- A proper preamble in front of a tag is no byte order mark. -/
theorem dropMark_preamble_write {p : Preamble} (h : p.isProper = true) (rest : List Char) :
    dropMark (p.write ++ '<' :: rest) = p.write ++ '<' :: rest := by
  rw [Preamble.isProper, Bool.and_eq_true, List.all_eq_true] at h
  obtain ⟨-, hblanks⟩ := h
  rw [Preamble.write]
  cases p.declaration with
  | some inside => rfl
  | none =>
    cases hp : p.blanks with
    | nil => rfl
    | cons c cs =>
      have hc : isMarkupBlank c = true := hblanks c (by simp [hp])
      have hmark : c.toNat ≠ 0xfeff := by
        simp only [isMarkupBlank, Bool.or_eq_true, beq_iff_eq] at hc
        rcases hc with ((rfl | rfl) | rfl) | rfl <;> decide
      rw [List.nil_append, List.cons_append, dropMark, if_neg hmark]

/-! ## Documents -/

/-- The written root begins with a tag. -/
theorem exists_writeWith_eq (e : Element) (short : Place → Bool) :
    ∃ tail, e.toNode.writeWith short = '<' :: tail := by
  rw [Element.toNode, Node.writeWith]
  split
  · exact ⟨_, rfl⟩
  · exact ⟨_, rfl⟩

/-- The root of a document is read as it was written. -/
theorem readOn_writeWith {e : Element} (h : e.toNode.isProper = true) (short : Place → Bool) :
    readOn [] (e.toNode.writeWith short) = .ok e := by
  obtain ⟨name, children⟩ := e
  rw [Element.toNode, Node.isProper, Bool.and_eq_true] at h
  obtain ⟨hname, hchildren⟩ := h
  have hname := isTagName_of_isName hname
  rw [Element.toNode, Node.writeWith]
  split
  · rename_i hshort
    have hempty : children = [] := by simpa using (Bool.and_eq_true_iff.1 hshort).1
    subst hempty
    have hnext : Token.next (['<'] ++ name.toList ++ ['/', '>']) = .token (.empty name.toList) [] :=
      hname.next_empty
    have hclose : OpenElement.close ⟨name.toList, []⟩ = ⟨name, []⟩ := close_eq hname []
    rw [readOn_of_token hnext, act, hclose]
    rfl
  · have hbody := (writing_writeContentWith children (fun n place => short (n :: place))
      hchildren).readUpToTag
    have hread := readOn_tagged hname hbody []
    rwa [List.append_nil] at hread

/-- A document gives back the tree from which it is written, with all children in their order:
whatever proper names the elements have, whatever the texts are, wherever the writer takes short
tags, and with or without a declaration and blanks in front. -/
theorem readDocument_writeWith {e : Element} {p : Preamble} (he : e.toNode.isProper = true)
    (hp : p.isProper = true) (short : Place → Bool) :
    readDocument (String.ofList (p.write ++ e.toNode.writeWith short)) = .ok e := by
  have hread := readOn_writeWith he short
  obtain ⟨tail, htail⟩ := exists_writeWith_eq e short
  rw [htail] at hread ⊢
  rw [readDocument, String.toList_ofList, dropMark_preamble_write hp, readOn_preamble_write hp,
    hread]

/-- Texts between tags that look like markup and blanks, and an empty element that is short at one
place and long at another. -/
theorem readDocument_writeWith_mixed :
    (Node.element "_a.é" [.text " <&]]>", .element "b" [], .text "\r\n", .element "c-1"
        [.element "b" [], .text "\""]]).isProper = true ∧
      (Preamble.mk (some " version='1.1'".toList) "\r\n".toList).isProper = true ∧
      readDocument ("<?xml version='1.1'?>\r\n<_a.é> &lt;&amp;]]&gt;<b/>\r\n" ++
          "<c-1><b></b>&quot;</c-1></_a.é>") =
        .ok ⟨"_a.é", [.text " <&]]>", .element "b" [], .text "\r\n", .element "c-1"
          [.element "b" [], .text "\""]]⟩ := by
  have he : (Element.toNode ⟨"_a.é", [.text " <&]]>", .element "b" [], .text "\r\n",
      .element "c-1" [.element "b" [], .text "\""]]⟩).isProper = true := by decide +kernel
  have hp : (Preamble.mk (some " version='1.1'".toList) "\r\n".toList).isProper = true := by
    decide
  exact ⟨he, hp, readDocument_writeWith he hp (· == [1])⟩

end PoolClient.Markup
