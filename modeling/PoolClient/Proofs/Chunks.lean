import PoolClient.Proofs.RoundTrip
/-!
# Text in pieces

Text inside an element may be broken into pieces (`Chunk`): escaped text, raw sections, and
comments, which stand for no text. Each piece is a token of its own, and escaped text runs into
the escaped text next to it. Read inside an element, the pieces give items whose joined text is
the text of the pieces in order (`readUpToTag_chunks`), and so they give strings, names of members
and names of methods without change (`chunks_verbatim`).
-/

namespace PoolClient

open Markup Number Text

namespace Markup

/-! ## Pieces -/

/-- A piece of the text inside an element. -/
inductive Chunk where
  | escaped (s : String)
  | raw (s : String)
  | comment (s : String)
  deriving DecidableEq, Repr

/-- The mark that ends a raw section. -/
def rawEnd : List Char :=
  "]]>".toList

/-- The mark that ends a comment. -/
def commentEnd : List Char :=
  "-->".toList

/-- A raw section or a comment does not hold the mark that ends it. -/
def Chunk.Proper : Chunk → Prop
  | .escaped _ => True
  | .raw s => ¬rawEnd <:+: s.toList
  | .comment s => ¬commentEnd <:+: s.toList

instance : DecidablePred Chunk.Proper
  | .escaped _ => inferInstanceAs (Decidable True)
  | .raw s => inferInstanceAs (Decidable (¬rawEnd <:+: s.toList))
  | .comment s => inferInstanceAs (Decidable (¬commentEnd <:+: s.toList))

/-- The mark that begins a raw section. -/
def rawStart : List Char :=
  "<![CDATA[".toList

/-- The mark that begins a comment. -/
def commentStart : List Char :=
  "<!--".toList

/-- A piece as it stands in a document. -/
def Chunk.write : Chunk → List Char
  | .escaped s => escape s.toList
  | .raw s => rawStart ++ s.toList ++ rawEnd
  | .comment s => commentStart ++ s.toList ++ commentEnd

/-- The text that a piece stands for. -/
def Chunk.text : Chunk → String
  | .escaped s => s
  | .raw s => s
  | .comment _ => ""

/-- Pieces as they stand in a document, one after another. -/
def writeChunks (chunks : List Chunk) : List Char :=
  chunks.flatMap Chunk.write

/-- The text of some pieces, in order. -/
def chunksText (chunks : List Chunk) : String :=
  String.join (chunks.map Chunk.text)

theorem writeChunks_cons (c : Chunk) (chunks : List Chunk) :
    writeChunks (c :: chunks) = c.write ++ writeChunks chunks :=
  List.flatMap_cons

theorem chunksText_cons (c : Chunk) (chunks : List Chunk) :
    chunksText (c :: chunks) = c.text ++ chunksText chunks := by
  rw [chunksText, List.map_cons, String.join_cons, chunksText]

/-! ## Where a piece ends -/

theorem next_rawStart {cs content rest : List Char} (h : upToMark rawEnd cs = some (content, rest)) :
    Token.next (rawStart ++ cs) = .token (.verbatim content) rest := by
  have hdeclaration : Token.next (rawStart ++ cs) = declaration ('[' :: ("CDATA[".toList ++ cs)) :=
    rfl
  have hword : "[CDATA[".toList.map Char.toUpper = "[CDATA[".toList := by decide
  have hafter : afterWord "[CDATA[".toList ('[' :: ("CDATA[".toList ++ cs)) = some cs :=
    afterWord_append hword cs
  have hfound : (afterWord "[CDATA[".toList ('[' :: ("CDATA[".toList ++ cs))).bind
      (upToMark "]]>".toList) = some (content, rest) := by
    rw [hafter]
    exact h
  rw [hdeclaration, declaration, hfound]

theorem next_commentStart {cs content rest : List Char}
    (h : upToMark commentEnd cs = some (content, rest)) :
    Token.next (commentStart ++ cs) = .token .aside rest := by
  have hdeclaration : Token.next (commentStart ++ cs) = declaration ('-' :: '-' :: cs) := rfl
  have hfound : upToMark "-->".toList cs = some (content, rest) := h
  rw [hdeclaration, declaration, hfound]

theorem next_raw {s : String} (h : (Chunk.raw s).Proper) (rest : List Char) :
    Token.next ((Chunk.raw s).write ++ rest) = .token (.verbatim s.toList) rest := by
  have hlast : '>' ∉ [']', ']'] := by decide
  rw [Chunk.write, List.append_assoc, List.append_assoc]
  exact next_rawStart (upToMark_append hlast h rest)

theorem next_comment {s : String} (h : (Chunk.comment s).Proper) (rest : List Char) :
    Token.next ((Chunk.comment s).write ++ rest) = .token .aside rest := by
  have hlast : '>' ∉ ['-', '-'] := by decide
  rw [Chunk.write, List.append_assoc, List.append_assoc]
  exact next_commentStart (upToMark_append hlast h rest)

/-! ## Reading pieces -/

theorem readWhole_raw {s : String} (h : (Chunk.raw s).Proper) :
    ReadWhole [.text s] (Chunk.raw s).write := by
  refine readWhole_of_next (next_raw h) fun e outer => ?_
  rw [act, String.ofList_toList]
  rfl

theorem readWhole_comment {s : String} (h : (Chunk.comment s).Proper) :
    ReadWhole [] (Chunk.comment s).write :=
  readWhole_of_next (next_comment h) fun _ _ => rfl

theorem readUpToTag_escape (s : String) : ReadUpToTag (textNodes s) (escape s.toList) :=
  (writing_textNodes s).readUpToTag

@[simp] theorem elementsOf_textNodes (s : String) : elementsOf (textNodes s) = [] := by
  unfold textNodes
  split <;> rfl

/-- Pieces are read as items with their text. The text `s` stands in front of them, since escaped
text runs into the piece that follows it. -/
theorem readUpToTag_escape_append {chunks : List Chunk} (h : ∀ c ∈ chunks, c.Proper) (s : String) :
    ∃ nodes, ReadUpToTag nodes (escape s.toList ++ writeChunks chunks) ∧
      elementsOf nodes = [] ∧ textOf nodes = s ++ chunksText chunks := by
  induction chunks generalizing s with
  | nil =>
    refine ⟨textNodes s, ?_, elementsOf_textNodes s, ?_⟩
    · rw [writeChunks, List.flatMap_nil, List.append_nil]
      exact readUpToTag_escape s
    · rw [textOf_textNodes]
      exact String.append_empty.symm
  | cons c chunks ih =>
    obtain ⟨hc, hrest⟩ := List.forall_mem_cons.1 h
    rw [writeChunks_cons, chunksText_cons]
    cases c with
    | escaped t =>
      have hjoined : escape s.toList ++ ((Chunk.escaped t).write ++ writeChunks chunks) =
          escape (s ++ t).toList ++ writeChunks chunks := by
        rw [String.toList_append, escape_append, List.append_assoc, Chunk.write]
      rw [hjoined, Chunk.text, ← String.append_assoc]
      exact ih hrest (s ++ t)
    | raw t =>
      obtain ⟨nodes, hread, helements, htext⟩ := ih hrest ""
      refine ⟨textNodes s ++ ([.text t] ++ nodes), ?_, ?_, ?_⟩
      · refine (readUpToTag_escape s).append ((readWhole_raw hc).append hread) fun rest => ?_
        exact ⟨_, rfl⟩
      · rw [elementsOf_append, elementsOf_textNodes, List.singleton_append, elementsOf, helements]
        rfl
      · rw [textOf_append, textOf_textNodes, List.singleton_append, textOf, htext, Chunk.text,
          String.empty_append]
    | comment t =>
      obtain ⟨nodes, hread, helements, htext⟩ := ih hrest ""
      refine ⟨textNodes s ++ nodes, ?_, ?_, ?_⟩
      · refine (readUpToTag_escape s).append ((readWhole_comment hc).append hread) fun rest => ?_
        exact ⟨_, rfl⟩
      · rw [elementsOf_append, elementsOf_textNodes, helements]
        rfl
      · rw [textOf_append, textOf_textNodes, htext, Chunk.text]

/-- Pieces inside an element are read as items with their text. -/
theorem readUpToTag_chunks {chunks : List Chunk} (h : ∀ c ∈ chunks, c.Proper) :
    ∃ nodes, ReadUpToTag nodes (writeChunks chunks) ∧
      elementsOf nodes = [] ∧ textOf nodes = chunksText chunks := by
  obtain ⟨nodes, hread, helements, htext⟩ := readUpToTag_escape_append h ""
  exact ⟨nodes, hread, helements, by rw [htext, String.empty_append]⟩

end Markup

/-! ## Strings and names -/

/-- The text of an element without elements in it. -/
theorem interpret_untyped {nodes : List Node} (h : elementsOf nodes = []) :
    interpret ⟨"value", nodes⟩ = .ok (.string (textOf nodes)) := by
  rw [interpret_eq, if_neg (by simp), Element.elements, h]
  rfl

theorem interpret_string (nodes : List Node) :
    interpret ⟨"value", [.element "string" nodes]⟩ = .ok (.string (textOf nodes)) := by
  rw [interpret_typed, interpretTyped]
  rfl

/-- Members of a structure with their names in pieces. -/
def writeNamed (members : List (List Chunk × Value)) : List Char :=
  members.flatMap fun m => tagged "member" (tagged "name" (writeChunks m.1) ++ writeValue m.2)

/-- Such members are read by the texts of their names. -/
theorem readUpToTag_writeNamed {members : List (List Chunk × Value)}
    (h : ∀ m ∈ members, (∀ c ∈ m.1, c.Proper) ∧ m.2.Canonical) :
    ∃ nodes, ReadUpToTag nodes (writeNamed members) ∧
      interpretMembers (elementsOf nodes) =
        .ok (members.map fun m => (chunksText m.1, m.2.received)) := by
  induction members with
  | nil =>
    refine ⟨[], readUpToTag_nil, ?_⟩
    rw [elementsOf, interpretMembers]
    rfl
  | cons m members ih =>
    obtain ⟨⟨hchunks, hcanonical⟩, hrest⟩ := List.forall_mem_cons.1 h
    obtain ⟨nodes, hread, hmembers⟩ := ih hrest
    obtain ⟨text, htext, -, hjoined⟩ := readUpToTag_chunks hchunks
    obtain ⟨body, hwrite, hbody⟩ := writing_value m.2
    have hvalue : ReadUpToTag [.element "value" [m.2.typed]] (writeValue m.2) := by
      rw [hwrite]
      exact ReadWhole.upToTag (readWhole_tagged (by decide) hbody.readUpToTag)
    have hmember : ReadUpToTag ([.element "name" text] ++ [.element "value" [m.2.typed]])
        (tagged "name" (writeChunks m.1) ++ writeValue m.2) :=
      (readWhole_tagged (by decide) htext).append hvalue
    have hmemberWhole : ReadWhole [.element "member" _] _ := readWhole_tagged (by decide) hmember
    refine ⟨_, hmemberWhole.append hread, ?_⟩
    have hfound : childOf ⟨"member", [.element "name" text, .element "value" [m.2.typed]]⟩
        "value" = .ok m.2.element := rfl
    rw [List.singleton_append, List.singleton_append, elementsOf, interpretMembers_cons,
      if_neg (by simp), childOf_head, hfound]
    simp only [bind, Except.bind, interpret_element hcanonical, hmembers, Element.text, hjoined]
    rfl

/-- Strings, names of members and names of methods are read as the text of the pieces in which
they are written; the name of a method is trimmed. -/
theorem chunks_verbatim :
    (∀ chunks : List Chunk, (∀ c ∈ chunks, c.Proper) →
      parseValue (String.ofList (tagged "value" (tagged "string" (writeChunks chunks)))) =
          .ok (.string (chunksText chunks)) ∧
        parseValue (String.ofList (tagged "value" (writeChunks chunks))) =
          .ok (.string (chunksText chunks))) ∧
      (∀ members : List (List Chunk × Value),
        (∀ m ∈ members, (∀ c ∈ m.1, c.Proper) ∧ m.2.Canonical) →
          parseValue (String.ofList (tagged "value" (tagged "struct" (writeNamed members)))) =
            .ok (.ofMembers (members.map fun m => (chunksText m.1, m.2.received)))) ∧
      ∀ (chunks : List Chunk) (params : List Value), (∀ c ∈ chunks, c.Proper) →
        (∀ v ∈ params, v.Canonical) →
          parseCall (String.ofList (tagged "methodCall"
              (tagged "methodName" (writeChunks chunks) ++ writeParams params))) =
            .ok ⟨trimmed (chunksText chunks), params.map Value.received⟩ := by
  refine ⟨fun chunks h => ⟨?_, ?_⟩, fun members h => ?_, fun chunks params h hparams => ?_⟩
  · obtain ⟨nodes, hread, -, htext⟩ := readUpToTag_chunks h
    have hstring : ReadWhole [.element "string" nodes] _ := readWhole_tagged (by decide) hread
    rw [parseValue_tagged hstring.upToTag, interpret_string, htext]
  · obtain ⟨nodes, hread, helements, htext⟩ := readUpToTag_chunks h
    rw [parseValue_tagged hread, interpret_untyped helements, htext]
  · obtain ⟨nodes, hread, hmembers⟩ := readUpToTag_writeNamed h
    have hstruct : ReadWhole [.element "struct" nodes] _ := readWhole_tagged (by decide) hread
    rw [parseValue_tagged hstruct.upToTag, interpret_typed, interpretTyped]
    simp only [typing?, Element.elements, hmembers]
    rfl
  · obtain ⟨nodes, hread, -, htext⟩ := readUpToTag_chunks h
    have hname : ReadWhole [.element "methodName" nodes] _ := readWhole_tagged (by decide) hread
    have hcall := hname.append (writing_params params).readUpToTag
    rw [parseCall, rootElement_tagged (by decide) hcall, ← htext]
    exact ofElement_methodCall nodes hparams

/-- Pieces that look like markup, entities or ends of sections, an empty one, a comment between
two halves of a line break. -/
theorem chunks_verbatim_markup :
    (∀ c ∈ [Chunk.escaped " <&", .raw "", .raw "]]", .escaped ">\r", .comment " a<b ", .raw "\n&lt;"],
        c.Proper) ∧
      parseValue
          "<value> &lt;&amp;<![CDATA[]]><![CDATA[]]]]>&gt;\r<!-- a<b --><![CDATA[\n&lt;]]></value>" =
        .ok (.string " <&]]>\r\n&lt;") := by
  have hproper : ∀ c ∈ [Chunk.escaped " <&", .raw "", .raw "]]", .escaped ">\r", .comment " a<b ",
      .raw "\n&lt;"], c.Proper := by decide +kernel
  exact ⟨hproper, (chunks_verbatim.1 _ hproper).2⟩

end PoolClient
