import Mathlib.Data.List.DropRight
import PoolClient.Text.Blank
/-!
# Blanks around texts

Blanks around a text do not change what is left of it when it is trimmed (`trim_append_left`,
`trim_append_right`), and a text that was trimmed has none left (`trim_trim`).
-/

namespace PoolClient.Text

variable {cs blanks : List Char}

theorem dropEndWhile_eq (p : Char → Bool) (cs : List Char) :
    dropEndWhile p cs = cs.rdropWhile p :=
  rfl

theorem trim_append_left (h : ∀ c ∈ blanks, isBlank c = true) (cs : List Char) :
    trim (blanks ++ cs) = trim cs := by
  rw [trim, List.dropWhile_append_of_pos h, ← trim]

theorem dropEndWhile_append {p : Char → Bool} {tail : List Char} (h : ∀ c ∈ tail, p c = true)
    (cs : List Char) : dropEndWhile p (cs ++ tail) = dropEndWhile p cs := by
  have hreverse : ∀ c ∈ tail.reverse, p c = true := fun c hc => h c (List.mem_reverse.1 hc)
  rw [dropEndWhile, List.reverse_append, List.dropWhile_append_of_pos hreverse, ← dropEndWhile]

/-- A character that stays keeps the text from being dropped. -/
theorem dropEndWhile_ne_nil {p : Char → Bool} {cs : List Char} (h : ∃ c ∈ cs, p c = false) :
    dropEndWhile p cs ≠ [] := by
  obtain ⟨c, hc, hp⟩ := h
  rw [dropEndWhile_eq, ne_eq, List.rdropWhile_eq_nil_iff]
  intro hall
  rw [hall c hc] at hp
  cases hp

/-- Nothing is dropped in front of a character that stays. -/
theorem dropEndWhile_append_of_mem {p : Char → Bool} {tail : List Char}
    (h : ∃ c ∈ tail, p c = false) (cs : List Char) :
    dropEndWhile p (cs ++ tail) = cs ++ dropEndWhile p tail := by
  have hstays : (tail.reverse.dropWhile p).isEmpty = false := by
    rw [List.isEmpty_eq_false_iff, ← List.reverse_ne_nil_iff]
    exact dropEndWhile_ne_nil h
  rw [dropEndWhile, List.reverse_append, List.dropWhile_append, hstays, if_neg (by simp),
    List.reverse_append, List.reverse_reverse, ← dropEndWhile]

theorem trim_append_right (cs : List Char) (h : ∀ c ∈ blanks, isBlank c = true) :
    trim (cs ++ blanks) = trim cs := by
  rw [trim, trim, List.dropWhile_append]
  split
  · rename_i hcs
    have hblanks : blanks.dropWhile isBlank = [] := List.dropWhile_eq_nil_iff.2 h
    rw [hblanks, List.isEmpty_iff.1 hcs]
  · rw [dropEndWhile_append h]

/-- A text without blanks at its ends has none to take off. -/
theorem trim_trim (cs : List Char) : trim (trim cs) = trim cs := by
  have hstart : (trim cs).dropWhile isBlank = trim cs := by
    rw [List.dropWhile_eq_self_iff]
    intro hpos
    have hfront : trim cs <+: cs.dropWhile isBlank := by
      rw [trim, dropEndWhile_eq]
      exact List.rdropWhile_prefix _ _
    rw [hfront.getElem hpos]
    exact List.dropWhile_get_zero_not isBlank cs (Nat.lt_of_lt_of_le hpos hfront.length_le)
  rw [trim, hstart, trim, dropEndWhile_eq, dropEndWhile_eq, List.rdropWhile_idempotent]

theorem trimmed_trimmed (s : String) : trimmed (trimmed s) = trimmed s := by
  rw [trimmed, trimmed, String.toList_ofList, trim_trim]

end PoolClient.Text
