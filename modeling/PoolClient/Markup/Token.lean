import PoolClient.Text.Blank
/-!
# Tokens of markup

`Token.next` reads one token from the front of a document: a run of text, a start tag, an
element without content, an end tag, a section of raw text, or an aside that carries nothing
(comment, processing instruction, declaration, document type). Tags are told by their name
alone, and attributes are skipped unread but for their quotes, which may hold `>`.
`Token.next_length_lt` says that every token takes something off the document.
-/

namespace PoolClient.Markup

open PoolClient.Text

/-- One token of a document. Names are whole, with any namespace prefix. -/
inductive Token where
  | text (raw : List Char)
  | opening (name : List Char)
  | empty (name : List Char)
  | closing (name : List Char)
  | verbatim (content : List Char)
  | aside
  deriving DecidableEq, Repr

/-- What reading a token comes to. -/
inductive Lexed where
  | finished
  | malformed
  | token (token : Token) (rest : List Char)
  deriving DecidableEq, Repr

/-! ## Where things end -/

/-- The text up to the first `>`, and what follows that; without one, all of it. -/
def upToClose (cs : List Char) : List Char × List Char :=
  (cs.takeWhile (· != '>'), (cs.dropWhile (· != '>')).drop 1)

/-- The inside of a start tag, and what follows its `>`. Inside a quote, `>` is no end. -/
def tagBody : Option Char → List Char → Option (List Char × List Char)
  | _, [] => none
  | none, c :: rest =>
    if c = '>' then some ([], rest)
    else (tagBody (if c = '"' ∨ c = '\'' then some c else none) rest).map fun (b, r) => (c :: b, r)
  | some q, c :: rest =>
    (tagBody (if c = q then none else some q) rest).map fun (b, r) => (c :: b, r)

/-- The text before the first occurrence of `mark`, and what follows it. -/
def upToMark (mark : List Char) : List Char → Option (List Char × List Char)
  | [] => none
  | c :: rest =>
    if mark.isPrefixOf (c :: rest) then some ([], (c :: rest).drop mark.length)
    else (upToMark mark rest).map fun (b, r) => (c :: b, r)

/-- The inside of a document type, `depth` declarations deep, and what follows its `>`. -/
def doctypeBody : Nat → List Char → Option (List Char × List Char)
  | _, [] => none
  | depth, c :: rest =>
    if c = '>' ∧ depth = 0 then some ([], rest)
    else
      let depth := if c = '<' then depth + 1 else if c = '>' then depth - 1 else depth
      (doctypeBody depth rest).map fun (b, r) => (c :: b, r)

/-- What follows `word` at the front of `cs`, in upper or lower case. -/
def afterWord (word cs : List Char) : Option (List Char) :=
  if (cs.take word.length).map Char.toUpper = word then some (cs.drop word.length) else none

/-! ## Kinds of tags -/

/-- A start tag, or an element without content if its inside ends in a slash. -/
def startToken (body : List Char) : Token :=
  let name := body.takeWhile (!isMarkupBlank ·)
  if body.getLast? = some '/' then
    .empty (if name.length < body.length then name else body.dropLast)
  else .opening name

/-- The name of an end tag, without blanks at its end. A name of blanks alone stays. -/
def closingName (body : List Char) : List Char :=
  let name := dropEndWhile isMarkupBlank body
  if name.isEmpty then body else name

/-- A token after `<!`. -/
def declaration (cs : List Char) : Lexed :=
  match cs with
  | '-' :: '-' :: rest =>
    match upToMark "-->".toList rest with
    | some (_, rest) => .token .aside rest
    | none => .malformed
  | '[' :: _ =>
    match (afterWord "[CDATA[".toList cs).bind (upToMark "]]>".toList) with
    | some (content, rest) => .token (.verbatim content) rest
    | none => .malformed
  | cs =>
    match (afterWord "DOCTYPE".toList cs).bind (doctypeBody 0) with
    | some (body, rest) =>
      if body.all isMarkupBlank then .malformed else .token .aside rest
    | none => .malformed

/-- A token after `<`. A document may end there, and an end tag may be cut off. A processing
instruction ends in a question mark of its own. -/
def tag (cs : List Char) : Lexed :=
  match cs with
  | [] => .finished
  | '!' :: rest => declaration rest
  | '/' :: rest =>
    let (body, rest) := upToClose rest
    .token (.closing (closingName body)) rest
  | '?' :: rest =>
    let (body, rest) := upToClose rest
    if 1 < body.length ∧ body.getLast? = some '?' then .token .aside rest else .malformed
  | cs =>
    match tagBody none cs with
    | some (body, rest) => .token (startToken body) rest
    | none => .malformed

/-- The token at the front of a document. -/
def Token.next (cs : List Char) : Lexed :=
  match cs with
  | [] => .finished
  | '<' :: rest => tag rest
  | cs => .token (.text (cs.takeWhile (· != '<'))) (cs.dropWhile (· != '<'))

/-! ## Every token is shorter than the document -/

theorem upToClose_length_le (cs : List Char) : (upToClose cs).2.length ≤ cs.length := by
  have := (List.dropWhile_sublist (· != '>') (l := cs)).length_le
  simp only [upToClose, List.length_drop]
  omega

theorem tagBody_length_lt {q : Option Char} {cs body rest : List Char}
    (h : tagBody q cs = some (body, rest)) : rest.length < cs.length := by
  induction cs generalizing q body with
  | nil => cases q <;> simp [tagBody] at h
  | cons c cs ih =>
    cases q with
    | none =>
      simp only [tagBody] at h
      split at h
      · simp only [Option.some.injEq, Prod.mk.injEq] at h
        simp [h.2]
      · obtain ⟨⟨b, r⟩, hb, heq⟩ := Option.map_eq_some_iff.1 h
        cases heq
        exact Nat.lt_succ_of_lt (ih hb)
    | some q =>
      obtain ⟨⟨b, r⟩, hb, heq⟩ := Option.map_eq_some_iff.1 h
      cases heq
      exact Nat.lt_succ_of_lt (ih hb)

theorem upToMark_length_le {mark cs body rest : List Char}
    (h : upToMark mark cs = some (body, rest)) : rest.length ≤ cs.length := by
  induction cs generalizing body with
  | nil => simp [upToMark] at h
  | cons c cs ih =>
    simp only [upToMark] at h
    split at h
    · simp only [Option.some.injEq, Prod.mk.injEq] at h
      rw [← h.2, List.length_drop]
      omega
    · obtain ⟨⟨b, r⟩, hb, heq⟩ := Option.map_eq_some_iff.1 h
      cases heq
      exact Nat.le_succ_of_le (ih hb)

theorem doctypeBody_length_lt {depth : Nat} {cs body rest : List Char}
    (h : doctypeBody depth cs = some (body, rest)) : rest.length < cs.length := by
  induction cs generalizing depth body with
  | nil => simp [doctypeBody] at h
  | cons c cs ih =>
    simp only [doctypeBody] at h
    split at h
    · simp only [Option.some.injEq, Prod.mk.injEq] at h
      simp [h.2]
    · obtain ⟨⟨b, r⟩, hb, heq⟩ := Option.map_eq_some_iff.1 h
      cases heq
      exact Nat.lt_succ_of_lt (ih hb)

theorem afterWord_length_le {word cs rest : List Char} (h : afterWord word cs = some rest) :
    rest.length ≤ cs.length := by
  unfold afterWord at h
  split at h
  · simp only [Option.some.injEq] at h
    rw [← h, List.length_drop]
    omega
  · cases h

theorem declaration_length_le {cs rest : List Char} {t : Token}
    (h : declaration cs = .token t rest) : rest.length ≤ cs.length := by
  unfold declaration at h
  split at h
  · split at h
    · rename_i hm
      cases h
      have := upToMark_length_le hm
      simp only [List.length_cons]
      omega
    · cases h
  · split at h
    · rename_i hm
      cases h
      obtain ⟨after, ha, hm⟩ := Option.bind_eq_some_iff.1 hm
      exact Nat.le_trans (upToMark_length_le hm) (afterWord_length_le ha)
    · cases h
  · split at h
    · rename_i hm
      obtain ⟨after, ha, hm⟩ := Option.bind_eq_some_iff.1 hm
      split at h
      · cases h
      · cases h
        exact Nat.le_trans (Nat.le_of_lt (doctypeBody_length_lt hm)) (afterWord_length_le ha)
    · cases h

theorem tag_length_le {cs rest : List Char} {t : Token} (h : tag cs = .token t rest) :
    rest.length ≤ cs.length := by
  unfold tag at h
  split at h
  · cases h
  · have := declaration_length_le h
    simp only [List.length_cons]
    omega
  · rename_i body
    cases h
    exact Nat.le_succ_of_le (upToClose_length_le body)
  · rename_i body
    simp only at h
    split at h
    · cases h
      exact Nat.le_succ_of_le (upToClose_length_le body)
    · cases h
  · split at h
    · rename_i hb
      cases h
      exact Nat.le_of_lt (tagBody_length_lt hb)
    · cases h

theorem Token.next_length_lt {cs rest : List Char} {t : Token}
    (h : Token.next cs = .token t rest) : rest.length < cs.length := by
  unfold Token.next at h
  split at h
  · cases h
  · have := tag_length_le h
    simp only [List.length_cons]
    omega
  · rename_i hnil hlt
    cases h
    cases cs with
    | nil => exact absurd rfl hnil
    | cons c cs =>
      have hc : c ≠ '<' := fun hc => hlt cs (by rw [hc])
      have := (List.dropWhile_sublist (· != '<') (l := cs)).length_le
      simp only [List.dropWhile_cons, bne_iff_ne, ne_eq, hc, not_false_eq_true, ↓reduceIte,
        List.length_cons]
      omega

end PoolClient.Markup
