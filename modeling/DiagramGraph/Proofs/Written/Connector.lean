import DiagramGraph.Proofs.Text.Part
import DiagramGraph.Proofs.Written.Arrow
import DiagramGraph.Proofs.Written.EntityReading

/-!
# Connectors that are read

Whatever is read as a connector can be written as one. So the connectors that are
found in diagrams of a kind are those of the grammar and no others.
-/

namespace DiagramGraph.Written

open DiagramGraph.Text

/-! ## Shafts and heads -/

/-- Marks of one sort are told by their number. -/
theorem takeWhile_eq_replicate (mark : Char) (text : List Char) :
    text.takeWhile (· == mark) = List.replicate (text.takeWhile (· == mark)).length mark := by
  apply List.eq_replicate_of_mem
  intro char member
  simpa using List.all_eq_true.1 List.all_takeWhile char member

theorem Shaft.exists_of_shaft? {text shaft rest : List Char}
    (read : AdornedConnector.shaft? text = some (shaft, rest)) :
    ∃ written : Shaft, shaft = written.text ∧ text = shaft ++ rest := by
  unfold AdornedConnector.shaft? at read
  split at read
  · next behind =>
      rcases run?_eq_some_iff.1 read with ⟨-, taken, -⟩
      refine ⟨.dashes (behind.takeWhile (· == '-')).length, ?_, (append_of_run? read).symm⟩
      rw [← taken, Shaft.text, List.replicate_succ, ← takeWhile_eq_replicate]
      rfl
  · next behind =>
      rcases run?_eq_some_iff.1 read with ⟨-, taken, -⟩
      refine ⟨.dots (behind.takeWhile (· == '.')).length, ?_, (append_of_run? read).symm⟩
      rw [← taken, Shaft.text, List.replicate_succ, List.replicate_succ, ← takeWhile_eq_replicate]
      rfl
  · contradiction

theorem exists_openHead_eq (text : List Char) :
    ∃ opened rest, openHead text = (openingText opened, rest) ∧
      text = openingText opened ++ rest := by
  unfold openHead
  split
  · exact ⟨true, _, rfl, rfl⟩
  · exact ⟨false, _, rfl, rfl⟩

theorem exists_closeHead_eq (text : List Char) :
    ∃ closed rest, closeHead text = (closingText closed, rest) ∧
      text = closingText closed ++ rest := by
  unfold closeHead
  split
  · exact ⟨true, _, rfl, rfl⟩
  · exact ⟨false, _, rfl, rfl⟩

/-! ## Connectors of each kind -/

/-- A connector of a class diagram is read as what it is. -/
theorem Glyph.exists_of_read? {text rest : List Char} {connector : AdornedConnector}
    (read : AdornedConnector.read? text = some (connector, rest)) :
    ∃ glyph : Glyph, text = glyph.connector.text ++ rest := by
  rcases Option.bind_eq_some_iff.1 read with ⟨⟨shaft, behind⟩, middle, same⟩
  rcases Shaft.exists_of_shaft? middle with ⟨written, rfl, split⟩
  cases same
  have left : ∀ char ∈ text.takeWhile AdornedConnector.leftAdornments.contains,
      char ∈ AdornedConnector.leftAdornments := fun char member =>
    List.contains_iff_mem.1 (List.all_eq_true.1 List.all_takeWhile char member)
  have right : ∀ char ∈ behind.takeWhile AdornedConnector.rightAdornments.contains,
      char ∈ AdornedConnector.rightAdornments := fun char member =>
    List.contains_iff_mem.1 (List.all_eq_true.1 List.all_takeWhile char member)
  refine ⟨⟨_, written, _, left, right⟩, ?_⟩
  simp only [Glyph.connector, AdornedConnector.text, List.append_assoc,
    List.takeWhile_append_dropWhile, ← split]

theorem ArrowGlyph.exists_of_read? {text written rest : List Char}
    (read : Arrow.read? text = some (written, rest)) :
    ∃ arrow : ArrowGlyph, text = arrow.text ++ rest := by
  rcases exists_openHead_eq text with ⟨opened, behind, opening, split⟩
  rw [Arrow.read?, opening] at read
  dsimp only at read
  split at read
  · next further =>
      rcases Option.map_eq_some_iff.1 read with ⟨⟨parts, remaining⟩, run, same⟩
      cases same
      have drawn : ∀ char ∈ parts, char = '-' ∨ char = '>' := by
        intro char member
        simpa [Arrow.isPart] using forall_of_run? run char member
      refine ⟨⟨opened, parts, (run?_eq_some_iff.1 run).1, drawn⟩, ?_⟩
      rw [split, ArrowGlyph.text, List.append_assoc, List.cons_append, append_of_run? run]
  · contradiction

theorem LinkGlyph.exists_of_read? {text written rest : List Char}
    (read : Link.read? text = some (written, rest)) :
    ∃ link : LinkGlyph, text = link.text ++ rest := by
  rcases exists_openHead_eq text with ⟨opened, behind, opening, split⟩
  rw [Link.read?, opening] at read
  rcases Option.bind_eq_some_iff.1 read with ⟨⟨shaft, further⟩, middle, same⟩
  rw [linkShaft?_eq] at middle
  rcases Shaft.exists_of_shaft? middle with ⟨drawn, rfl, onward⟩
  rcases exists_closeHead_eq further with ⟨closed, remaining, closing, finish⟩
  dsimp only at same
  rw [closing] at same
  cases same
  refine ⟨⟨opened, drawn, closed⟩, ?_⟩
  rw [split, onward, LinkGlyph.text, List.append_assoc, List.append_assoc, ← finish]

theorem Foot.exists_of_read? {text written rest : List Char}
    (read : CrowsFoot.read? text = some (written, rest)) :
    ∃ left dotted right, CrowsFoot.isLeftEnd left = true ∧ CrowsFoot.isRightEnd right = true ∧
      text = left ++ (shaftText dotted ++ right) ++ rest := by
  rcases Option.bind_eq_some_iff.1 read with ⟨⟨shaft, behind⟩, middle, ends⟩
  rcases shaft?_eq_some middle with ⟨split, shape⟩
  have drawn : ∃ dotted, shaft = shaftText dotted := by
    rcases shape with rfl | rfl
    · exact ⟨false, rfl⟩
    · exact ⟨true, rfl⟩
  rcases drawn with ⟨dotted, rfl⟩
  dsimp only at ends
  split at ends
  · next fits =>
      cases ends
      rw [Bool.and_eq_true] at fits
      refine ⟨_, dotted, _, fits.1, fits.2, ?_⟩
      simp only [List.append_assoc, List.takeWhile_append_dropWhile, ← split]
  · contradiction

end DiagramGraph.Written
