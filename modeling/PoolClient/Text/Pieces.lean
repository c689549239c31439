/-!
# Pieces

`pieces` cuts a text at every occurrence of a separator.
-/

namespace PoolClient.Text

/-- What stands before, between and after the separators. -/
def pieces (separator : Char) : List Char → List (List Char)
  | [] => [[]]
  | c :: rest =>
    if c == separator then [] :: pieces separator rest
    else
      match pieces separator rest with
      | piece :: more => (c :: piece) :: more
      | [] => [[c]]

theorem pieces_ne_nil (separator : Char) (cs : List Char) : pieces separator cs ≠ [] := by
  cases cs with
  | nil => simp [pieces]
  | cons c rest =>
    unfold pieces
    split
    · simp
    · split <;> simp

/-- A separator that does not occur differs from every character. -/
theorem bne_of_not_mem {separator : Char} {cs : List Char} (h : separator ∉ cs) :
    ∀ c ∈ cs, (c != separator) = true := by
  intro c hc
  rw [bne_iff_ne]
  rintro rfl
  exact h hc

end PoolClient.Text
