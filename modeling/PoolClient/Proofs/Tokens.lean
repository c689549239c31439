import Mathlib.Data.List.Infix
import Mathlib.Data.List.TakeWhile
import PoolClient.Markup.Token
import PoolClient.Text.Pieces
/-!
# Where tokens end

A section ends at the first place of its mark (`upToMark_append`, `upToMark_eq_some`), and a tag at
a `>`. What is read up to there does not depend on what follows (`EndsAt`). So a token ends in one
of few ways (`Token.Ends`): in its own `>`, whatever follows; as text where a tag begins; or, cut
off, where the document ends.
-/

namespace PoolClient.Markup

open PoolClient.Text

/-! ## Marks -/

section

variable {stem cs : List Char} {last : Char}

/-- A mark whose last character stands nowhere else in it does not begin in a text without the
mark and end behind it. -/
theorem not_isPrefix_append (hlast : last ∉ stem) (hcs : ¬stem ++ [last] <:+: cs) (hne : cs ≠ [])
    (rest : List Char) : ¬stem ++ [last] <+: cs ++ (stem ++ [last] ++ rest) := by
  intro h
  rcases List.prefix_or_prefix_of_prefix h (List.prefix_append cs _) with hshort | ⟨part, hpart⟩
  · exact hcs hshort.isInfix
  rcases List.eq_nil_or_concat part with rfl | ⟨part, c, rfl⟩
  · rw [List.append_nil] at hpart
    exact hcs (hpart ▸ List.infix_rfl)
  -- the part behind the text would be shorter than the mark and end in its last character
  have hinner : cs ++ part = stem ∧ [c] = [last] :=
    List.append_inj' (by rw [List.append_assoc, ← List.concat_eq_append, hpart]) rfl
  obtain ⟨rfl, hc⟩ := hinner
  rw [List.append_assoc, List.append_assoc, List.append_assoc, List.prefix_append_right_inj,
    ← List.append_assoc] at h
  have hlength : (part ++ [last]).length ≤ (cs ++ part).length := by
    have := List.length_pos_iff.2 hne
    simp only [List.length_append, List.length_singleton]
    omega
  have hbehind : part ++ [last] <+: cs ++ part :=
    List.prefix_of_prefix_length_le h (List.prefix_append _ _) hlength
  exact hlast (hbehind.subset (by simp))

/-- Such a mark is found behind a text in which it does not occur. -/
theorem upToMark_append (hlast : last ∉ stem) (hcs : ¬stem ++ [last] <:+: cs) (rest : List Char) :
    upToMark (stem ++ [last]) (cs ++ (stem ++ [last] ++ rest)) = some (cs, rest) := by
  induction cs with
  | nil =>
    obtain ⟨c, mark, hmark⟩ := List.exists_cons_of_ne_nil (List.append_ne_nil_of_right_ne_nil stem
      (List.cons_ne_nil last []))
    have hprefix : (stem ++ [last]).isPrefixOf (stem ++ [last] ++ rest) = true :=
      List.isPrefixOf_iff_prefix.2 (List.prefix_append _ _)
    rw [List.nil_append]
    rw [hmark, List.cons_append] at hprefix ⊢
    rw [upToMark, if_pos hprefix, ← List.cons_append, List.drop_left]
  | cons c cs ih =>
    have hprefix := not_isPrefix_append hlast hcs (List.cons_ne_nil c cs) rest
    have hrest : ¬stem ++ [last] <:+: cs := fun h => hcs (List.infix_cons h)
    rw [List.cons_append] at hprefix ⊢
    rw [upToMark, if_neg (by rwa [List.isPrefixOf_iff_prefix]), ih hrest]
    rfl

end

/-- A mark is found at its first place. -/
theorem upToMark_eq_some {mark cs body rest : List Char} (hmark : mark ≠ [])
    (h : upToMark mark cs = some (body, rest)) : cs = body ++ (mark ++ rest) ∧ ¬mark <:+: body := by
  induction cs generalizing body with
  | nil => cases h
  | cons c cs ih =>
    rw [upToMark] at h
    split at h
    · rename_i hprefix
      obtain ⟨tail, htail⟩ := List.isPrefixOf_iff_prefix.1 hprefix
      rw [← htail, List.drop_left, Option.some.injEq, Prod.mk.injEq] at h
      obtain ⟨rfl, rfl⟩ := h
      exact ⟨htail.symm, fun hinfix => hmark (List.infix_nil.1 hinfix)⟩
    · rename_i hprefix
      rw [List.isPrefixOf_iff_prefix] at hprefix
      obtain ⟨⟨b, r⟩, hb, heq⟩ := Option.map_eq_some_iff.1 h
      cases heq
      obtain ⟨rfl, hinfix⟩ := ih hb
      refine ⟨rfl, fun h => ?_⟩
      rcases List.infix_cons_iff.1 h with h | h
      · exact hprefix (h.trans (List.prefix_append (c :: b) _))
      · exact hinfix h

theorem upToClose_append {body : List Char} (h : '>' ∉ body) (rest : List Char) :
    upToClose (body ++ '>' :: rest) = (body, rest) := by
  have hbody := bne_of_not_mem h
  rw [upToClose, List.takeWhile_append_of_pos hbody, List.dropWhile_append_of_pos hbody]
  simp

/-- Without a `>`, the text is taken to its end. -/
theorem upToClose_of_not_mem {cs : List Char} (h : '>' ∉ cs) : upToClose cs = (cs, []) := by
  have hcs := bne_of_not_mem h
  rw [upToClose, List.takeWhile_eq_self_iff.2 hcs, List.dropWhile_eq_nil_iff.2 hcs, List.drop_nil]

/-! ## Parts that end in `>` -/

/-- What is read off the front of the text ends in `>` and leaves `rest`, and the same is read
whatever else is left. -/
def EndsAt {β : Type} (read : List Char → β) (result : List Char → β) (cs rest : List Char) :
    Prop :=
  ∃ part, cs = part ++ '>' :: rest ∧ ∀ s, read (part ++ '>' :: s) = result s

section

variable {β γ : Type} {read : List Char → β} {result : List Char → β} {read' : List Char → γ}
  {result' : List Char → γ} {cs body rest : List Char}

/-- What stands in front is read on the way. -/
theorem EndsAt.behind (front : List Char) (h : EndsAt read result cs rest)
    (hstep : ∀ cs s, read cs = result s → read' (front ++ cs) = result' s) :
    EndsAt read' result' (front ++ cs) rest := by
  obtain ⟨part, rfl, hread⟩ := h
  refine ⟨front ++ part, (List.append_assoc ..).symm, fun s => ?_⟩
  rw [List.append_assoc]
  exact hstep _ s (hread s)

theorem endsAt_tagBody {quote : Option Char} (h : tagBody quote cs = some (body, rest)) :
    EndsAt (tagBody quote) (fun s => some (body, s)) cs rest := by
  induction cs generalizing quote body with
  | nil => cases quote <;> cases h
  | cons c cs ih =>
    cases quote with
    | none =>
      rw [tagBody] at h
      split at h
      · rename_i hc
        cases h
        exact ⟨[], by rw [hc, List.nil_append], fun s => by simp [tagBody]⟩
      · rename_i hc
        obtain ⟨⟨b, r⟩, hb, heq⟩ := Option.map_eq_some_iff.1 h
        cases heq
        refine (ih hb).behind [c] fun cs s hcs => ?_
        rw [List.singleton_append, tagBody, if_neg hc, hcs]
        rfl
    | some q =>
      rw [tagBody] at h
      obtain ⟨⟨b, r⟩, hb, heq⟩ := Option.map_eq_some_iff.1 h
      cases heq
      refine (ih hb).behind [c] fun cs s hcs => ?_
      rw [List.singleton_append, tagBody, hcs]
      rfl

theorem endsAt_doctypeBody {depth : Nat} (h : doctypeBody depth cs = some (body, rest)) :
    EndsAt (doctypeBody depth) (fun s => some (body, s)) cs rest := by
  induction cs generalizing depth body with
  | nil => cases h
  | cons c cs ih =>
    rw [doctypeBody] at h
    split at h
    · rename_i hc
      cases h
      exact ⟨[], by rw [hc.1, List.nil_append], fun s => by simp [doctypeBody, hc.2]⟩
    · rename_i hc
      obtain ⟨⟨b, r⟩, hb, heq⟩ := Option.map_eq_some_iff.1 h
      cases heq
      refine (ih hb).behind [c] fun cs s hcs => ?_
      rw [List.singleton_append, doctypeBody, if_neg hc]
      simp only [hcs]
      rfl

theorem endsAt_upToMark (stem : List Char) (hstem : '>' ∉ stem)
    (h : upToMark (stem ++ ['>']) cs = some (body, rest)) :
    EndsAt (upToMark (stem ++ ['>'])) (fun s => some (body, s)) cs rest := by
  obtain ⟨rfl, hbody⟩ := upToMark_eq_some (by simp) h
  refine ⟨body ++ stem, by simp, fun s => ?_⟩
  have hfound := upToMark_append hstem hbody s
  simpa using hfound

/-! ## Declarations -/

theorem afterWord_append {front word : List Char} (h : front.map Char.toUpper = word)
    (cs : List Char) : afterWord word (front ++ cs) = some cs := by
  have hlength : word.length = front.length := by rw [← h, List.length_map]
  rw [afterWord, hlength, List.take_left, if_pos h, List.drop_left]

theorem afterWord_eq_some {word : List Char} (h : afterWord word cs = some rest) :
    ∃ front, cs = front ++ rest ∧ front.map Char.toUpper = word := by
  unfold afterWord at h
  split at h
  · rename_i hword
    cases h
    exact ⟨cs.take word.length, (List.take_append_drop ..).symm, hword⟩
  · cases h

theorem declaration_of_ne {c : Char} (hdash : c ≠ '-') (hbracket : c ≠ '[') (cs : List Char) :
    declaration (c :: cs) =
      match (afterWord "DOCTYPE".toList (c :: cs)).bind (doctypeBody 0) with
      | some (body, rest) => if body.all isMarkupBlank then .malformed else .token .aside rest
      | none => .malformed := by
  unfold declaration
  split
  · rename_i heq
    exact absurd (List.cons.inj heq).1 hdash
  · rename_i heq
    exact absurd (List.cons.inj heq).1 hbracket
  · rfl

theorem endsAt_comment (h : upToMark "-->".toList cs = some (body, rest)) :
    EndsAt declaration (.token .aside) ('-' :: '-' :: cs) rest := by
  refine (endsAt_upToMark ['-', '-'] (by decide) h).behind ['-', '-'] fun cs s hcs => ?_
  have hcs : upToMark "-->".toList cs = some (body, s) := hcs
  simp only [List.cons_append, List.nil_append, declaration, hcs]

theorem endsAt_rawSection
    (h : (afterWord "[CDATA[".toList ('[' :: cs)).bind (upToMark "]]>".toList) =
      some (body, rest)) :
    EndsAt declaration (.token (.verbatim body)) ('[' :: cs) rest := by
  obtain ⟨after, hword, hbody⟩ := Option.bind_eq_some_iff.1 h
  obtain ⟨front, hfront, hupper⟩ := afterWord_eq_some hword
  cases front with
  | nil => cases hupper
  | cons c front =>
    obtain rfl : '[' = c := (List.cons.inj hfront).1
    rw [hfront]
    refine (endsAt_upToMark [']', ']'] (by decide) hbody).behind _ fun cs s hcs => ?_
    have hcs : upToMark "]]>".toList cs = some (body, s) := hcs
    have hafter := afterWord_append hupper cs
    rw [List.cons_append] at hafter ⊢
    simp only [declaration, hafter, Option.bind_some, hcs]

theorem endsAt_doctype (hblank : ¬body.all isMarkupBlank = true)
    (h : (afterWord "DOCTYPE".toList cs).bind (doctypeBody 0) = some (body, rest)) :
    EndsAt declaration (.token .aside) cs rest := by
  obtain ⟨after, hword, hbody⟩ := Option.bind_eq_some_iff.1 h
  obtain ⟨front, rfl, hupper⟩ := afterWord_eq_some hword
  refine (endsAt_doctypeBody hbody).behind front fun cs s hcs => ?_
  have hafter := afterWord_append hupper cs
  cases front with
  | nil => cases hupper
  | cons c front =>
    have hc : c.toUpper = 'D' := (List.cons.inj hupper).1
    have hne : c ≠ '-' ∧ c ≠ '[' := by
      constructor <;> (rintro rfl; revert hc; decide)
    rw [List.cons_append] at hafter ⊢
    rw [declaration_of_ne hne.1 hne.2, hafter]
    simp only [Option.bind_some, hcs, if_neg hblank]

theorem endsAt_declaration {t : Token} (h : declaration cs = .token t rest) :
    EndsAt declaration (.token t) cs rest := by
  unfold declaration at h
  split at h
  · split at h
    · rename_i hbody
      cases h
      exact endsAt_comment hbody
    · cases h
  · split at h
    · rename_i hbody
      cases h
      exact endsAt_rawSection hbody
    · cases h
  · split at h
    · rename_i hbody
      split at h
      · cases h
      · rename_i hblank
        cases h
        exact endsAt_doctype hblank hbody
    · cases h

end

/-! ## Tokens -/

/-- How a token ends. -/
inductive Token.Ends : List Char → Token → List Char → Prop where
  /-- In its own `>`, whatever follows. -/
  | whole {part rest : List Char} {t : Token}
      (h : ∀ s, Token.next (part ++ '>' :: s) = .token t s) : Ends (part ++ '>' :: rest) t rest
  /-- As text, where a tag begins. -/
  | text {raw tail : List Char} (hne : raw ≠ []) (hraw : '<' ∉ raw) :
      Ends (raw ++ '<' :: tail) (.text raw) ('<' :: tail)
  /-- As text, where the document ends. -/
  | lastText {cs raw : List Char} : Ends cs (.text raw) []
  /-- As a processing instruction that is cut off. -/
  | cutAside {cs : List Char} : Ends cs .aside []
  /-- As an end tag that is cut off. -/
  | cutClosing {name : List Char} (hname : '>' ∉ name) :
      Ends ('<' :: '/' :: name) (.closing (closingName name)) []

theorem tag_of_ne {c : Char} (hbang : c ≠ '!') (hslash : c ≠ '/') (hmark : c ≠ '?')
    (cs : List Char) :
    tag (c :: cs) =
      match tagBody none (c :: cs) with
      | some (body, rest) => .token (startToken body) rest
      | none => .malformed := by
  unfold tag
  split
  · rename_i heq
    cases heq
  · rename_i heq
    exact absurd (List.cons.inj heq).1 hbang
  · rename_i heq
    exact absurd (List.cons.inj heq).1 hslash
  · rename_i heq
    exact absurd (List.cons.inj heq).1 hmark
  · rfl

section

variable {cs body rest : List Char} {t : Token}

/-- A tag that ends in its own `>` is a token that does. -/
theorem EndsAt.ends (h : EndsAt tag (.token t) cs rest) : Token.Ends ('<' :: cs) t rest := by
  obtain ⟨part, rfl, hread⟩ := h
  have hread : ∀ s, Token.next ('<' :: part ++ '>' :: s) = .token t s := hread
  exact .whole hread

theorem ends_of_closing {name : List Char} (h : tag ('/' :: name) = .token t rest) :
    Token.Ends ('<' :: '/' :: name) t rest := by
  rw [tag] at h
  by_cases hclose : '>' ∈ name
  · obtain ⟨body, tail, rfl, hbody⟩ := List.eq_append_cons_of_mem hclose
    rw [upToClose_append hbody] at h
    cases h
    refine EndsAt.ends ⟨'/' :: body, rfl, fun s => ?_⟩
    simp only [List.cons_append, tag, upToClose_append hbody]
  · rw [upToClose_of_not_mem hclose] at h
    cases h
    exact .cutClosing hclose

theorem ends_of_instruction {inside : List Char} (h : tag ('?' :: inside) = .token t rest) :
    Token.Ends ('<' :: '?' :: inside) t rest := by
  rw [tag] at h
  by_cases hclose : '>' ∈ inside
  · obtain ⟨body, tail, rfl, hbody⟩ := List.eq_append_cons_of_mem hclose
    simp only [upToClose_append hbody] at h
    split at h
    · rename_i hmark
      cases h
      refine EndsAt.ends ⟨'?' :: body, rfl, fun s => ?_⟩
      simp only [List.cons_append, tag, upToClose_append hbody, if_pos hmark]
    · cases h
  · simp only [upToClose_of_not_mem hclose] at h
    split at h
    · cases h
      exact .cutAside
    · cases h

theorem ends_of_tagBody (hbang : cs.head? ≠ some '!') (hslash : cs.head? ≠ some '/')
    (hmark : cs.head? ≠ some '?') (h : tagBody none cs = some (body, rest)) :
    Token.Ends ('<' :: cs) (startToken body) rest := by
  obtain ⟨part, rfl, hread⟩ := endsAt_tagBody h
  refine EndsAt.ends ⟨part, rfl, fun s => ?_⟩
  have hread := hread s
  cases part with
  | nil =>
    rw [List.nil_append] at hread ⊢
    rw [tag_of_ne (by decide) (by decide) (by decide), hread]
  | cons c part =>
    have hfirst : ∀ {d : Char}, (c :: part ++ '>' :: rest).head? ≠ some d → c ≠ d :=
      fun hd heq => hd (congrArg some heq)
    rw [List.cons_append] at hread ⊢
    rw [tag_of_ne (hfirst hbang) (hfirst hslash) (hfirst hmark), hread]

theorem ends_of_tag (h : tag cs = .token t rest) : Token.Ends ('<' :: cs) t rest := by
  unfold tag at h
  split at h
  · cases h
  · exact EndsAt.ends ((endsAt_declaration h).behind ['!'] fun _ _ hcs => hcs)
  · exact ends_of_closing h
  · exact ends_of_instruction h
  · rename_i hnil hbang hslash hmark
    have hhead : ∀ {d : Char}, (∀ tail, cs = d :: tail → False) → cs.head? ≠ some d :=
      fun hd heq => (List.head?_eq_some_iff.1 heq).elim hd
    split at h
    · rename_i hbody
      cases h
      exact ends_of_tagBody (hhead hbang) (hhead hslash) (hhead hmark) hbody
    · cases h

end

/-- A text is taken up to the first tag. -/
theorem span_append_open {raw : List Char} (hraw : '<' ∉ raw) (tail : List Char) :
    (raw ++ '<' :: tail).takeWhile (· != '<') = raw ∧
      (raw ++ '<' :: tail).dropWhile (· != '<') = '<' :: tail := by
  have hpos := bne_of_not_mem hraw
  rw [List.takeWhile_append_of_pos hpos, List.dropWhile_append_of_pos hpos]
  simp

/-- Text is read up to the next tag. -/
theorem next_text {cs : List Char} (hne : cs ≠ []) (hcs : '<' ∉ cs) (rest : List Char) :
    Token.next (cs ++ '<' :: rest) = .token (.text cs) ('<' :: rest) := by
  obtain ⟨htake, hdrop⟩ := span_append_open hcs rest
  unfold Token.next
  split
  · rename_i heq
    simp at heq
  · rename_i heq
    obtain ⟨c, cs, rfl⟩ := List.exists_cons_of_ne_nil hne
    exact absurd (List.cons.inj heq).1 (List.ne_of_not_mem_cons hcs).symm
  · rw [htake, hdrop]

/-- Every token ends in one of these ways. -/
theorem ends_of_next {cs rest : List Char} {t : Token} (h : Token.next cs = .token t rest) :
    Token.Ends cs t rest := by
  unfold Token.next at h
  split at h
  · cases h
  · exact ends_of_tag h
  · rename_i hnil hopen
    cases h
    by_cases hmem : '<' ∈ cs
    · obtain ⟨raw, tail, rfl, hraw⟩ := List.eq_append_cons_of_mem hmem
      obtain ⟨htake, hdrop⟩ := span_append_open hraw tail
      rw [htake, hdrop]
      refine .text (fun hnil => hopen tail (by rw [hnil, List.nil_append])) hraw
    · rw [List.dropWhile_eq_nil_iff.2 (bne_of_not_mem hmem)]
      exact .lastText

end PoolClient.Markup
