/-!
# Cutting a text at a separator

The pieces between the occurrences of one character. A text with `n`
separators has `n + 1` pieces, some of which may be empty.
-/

namespace DiagramGraph.Text

/-- The pieces of a text between the separators. -/
def pieces (separator : Char) : List Char → List (List Char)
  | [] => [[]]
  | char :: rest =>
      if char = separator then [] :: pieces separator rest
      else
        match pieces separator rest with
        | [] => [[char]]
        | piece :: others => (char :: piece) :: others

theorem pieces_ne_nil (separator : Char) (text : List Char) :
    pieces separator text ≠ [] := by
  cases text with
  | nil => simp [pieces]
  | cons char rest =>
      simp only [pieces]
      split
      · simp
      · split <;> simp

/-- The pieces, joined by the separator, are the text. -/
theorem intercalate_pieces (separator : Char) (text : List Char) :
    [separator].intercalate (pieces separator text) = text := by
  induction text with
  | nil => simp [pieces]
  | cons char rest ih =>
      simp only [pieces]
      obtain ⟨piece, others, shape⟩ := List.exists_cons_of_ne_nil (pieces_ne_nil separator rest)
      rw [shape] at ih ⊢
      split
      · next equal => subst equal; simp [← ih, List.intercalate, List.intersperse]
      · cases others <;> simp [← ih, List.intercalate, List.intersperse]

/-- No piece contains the separator. -/
theorem separator_notMem_of_mem_pieces (separator : Char) (text : List Char) :
    ∀ piece ∈ pieces separator text, separator ∉ piece := by
  induction text with
  | nil => simp [pieces]
  | cons char rest ih =>
      simp only [pieces]
      split
      · simpa using ih
      · next different =>
          obtain ⟨piece, others, shape⟩ :=
            List.exists_cons_of_ne_nil (pieces_ne_nil separator rest)
          rw [shape] at ih ⊢
          intro candidate member
          rcases List.mem_cons.1 member with rfl | member
          · have := ih piece (by simp)
            simp [this, Ne.symm different]
          · exact ih candidate (by simp [member])

end DiagramGraph.Text
