import DiagramGraph.Proofs.Text.Casing
import DiagramGraph.Proofs.Text.Part

/-!
# Unbroken texts

An unbroken text is not empty and has no blank anywhere, so it stands in one piece on
one line. Words are unbroken, and they stay so if their case is changed, although a
character may become several.
-/

namespace DiagramGraph.Text

/-- The text is not empty and has no blank. -/
structure IsUnbroken (text : List Char) : Prop where
  nonempty : text ≠ []
  visible : ∀ char ∈ text, isBlank char = false

theorem IsUnbroken.tidy {text : List Char} (unbroken : IsUnbroken text) : Tidy text :=
  tidy_of_forall unbroken.nonempty unbroken.visible

theorem IsWordRun.isUnbroken {text : List Char} (run : IsWordRun text) : IsUnbroken text :=
  ⟨run.nonempty, fun char member => isBlank_eq_false_of_isWord (run.word char member)⟩

theorem IsUnbroken.append {front back : List Char} (unbroken : IsUnbroken front)
    (visible : ∀ char ∈ back, isBlank char = false) : IsUnbroken (front ++ back) where
  nonempty := List.append_ne_nil_of_left_ne_nil unbroken.nonempty back
  visible := List.forall_mem_append.2 ⟨unbroken.visible, visible⟩

/-! ## Changes of case -/

/-- A code point outside of the blank ranges makes no blank, even if it is that of no
character. -/
theorem isBlank_ofNat {code : Nat}
    (outside : ∀ range ∈ blankRanges, code < range.first ∨ range.last < code) :
    isBlank (Char.ofNat code) = false := by
  by_cases valid : code.isValidChar
  · have same : (Char.ofNat code).toNat = code := by
      rw [Char.ofNat, dif_pos valid]
      rfl
    rw [isBlank, same, Bool.eq_false_iff]
    intro blank
    obtain ⟨range, member, least, greatest⟩ := (CodeRange.covers_iff _ _).1 blank
    have apart := outside range member
    omega
  · rw [Char.ofNat, dif_neg valid]
    decide

/-- All targets of a run lie outside of the blank ranges. -/
def CaseRun.AvoidsBlanks (run : CaseRun) : Prop :=
  ∀ range ∈ blankRanges,
    run.target + (run.last - run.first) < range.first ∨ range.last < run.target

instance (run : CaseRun) : Decidable run.AvoidsBlanks :=
  inferInstanceAs (Decidable (∀ range ∈ blankRanges, _ ∨ _))

/-- A table of case mappings has no blank among its targets. -/
structure AvoidsBlanks (expansions : List (Nat × List Nat)) (runs : List CaseRun) : Prop where
  expansions : ∀ row ∈ expansions,
    row.2 ≠ [] ∧ ∀ code ∈ row.2, isBlank (Char.ofNat code) = false
  runs : ∀ run ∈ runs, run.AvoidsBlanks

theorem isUnbroken_mapCase {expansions : List (Nat × List Nat)} {runs : List CaseRun}
    (avoids : AvoidsBlanks expansions runs) {char : Char} (visible : isBlank char = false) :
    IsUnbroken (mapCase expansions runs char) := by
  unfold mapCase
  split
  · next codes found =>
      obtain ⟨front, back, split, -⟩ := List.lookup_eq_some_iff.1 found
      obtain ⟨nonempty, clear⟩ := avoids.expansions (char.toNat, codes) (by simp [split])
      exact ⟨by simpa using nonempty, List.forall_mem_map.2 clear⟩
  · split
    · next run found =>
        have holds := List.find?_some found
        have avoided := avoids.runs run (List.mem_of_find?_eq_some found)
        simp only [CaseRun.holds, Bool.and_eq_true, decide_eq_true_eq] at holds
        refine ⟨List.cons_ne_nil _ _, List.forall_mem_singleton.2 (isBlank_ofNat ?_)⟩
        intro range member
        have apart := avoided range member
        rw [CaseRun.apply]
        omega
    · exact ⟨List.cons_ne_nil _ _, List.forall_mem_singleton.2 visible⟩

theorem avoidsBlanks_upper : AvoidsBlanks upperExpansions upperRuns :=
  ⟨by decide +kernel, by decide +kernel⟩

theorem avoidsBlanks_lower : AvoidsBlanks lowerExpansions lowerRuns :=
  ⟨by decide +kernel, by decide +kernel⟩

theorem isUnbroken_upperChar {char : Char} (visible : isBlank char = false) :
    IsUnbroken (upperChar char) := by
  rw [upperChar]
  split
  · next ascii =>
      refine ⟨List.cons_ne_nil _ _, List.forall_mem_singleton.2 ?_⟩
      exact forall_ascii (P := fun c => isBlank c = false → isBlank c.toUpper = false) (by decide)
        ascii visible
  · exact isUnbroken_mapCase avoidsBlanks_upper visible

theorem isUnbroken_lowerChar {char : Char} (visible : isBlank char = false) :
    IsUnbroken (lowerChar char) := by
  rw [lowerChar]
  split
  · next ascii =>
      refine ⟨List.cons_ne_nil _ _, List.forall_mem_singleton.2 ?_⟩
      exact forall_ascii (P := fun c => isBlank c = false → isBlank c.toLower = false) (by decide)
        ascii visible
  · exact isUnbroken_mapCase avoidsBlanks_lower visible

/-- Capitals stay in one piece. -/
theorem IsUnbroken.capitalize {text : List Char} (unbroken : IsUnbroken text) :
    IsUnbroken (capitalize text) := by
  obtain ⟨first, rest, rfl⟩ := List.exists_cons_of_ne_nil unbroken.nonempty
  have visible := List.forall_mem_cons.1 unbroken.visible
  rw [Text.capitalize]
  refine (isUnbroken_upperChar visible.1).append fun char member => ?_
  obtain ⟨other, inside, found⟩ := List.mem_flatMap.1 member
  exact (isUnbroken_lowerChar (visible.2 other inside)).visible char found

end DiagramGraph.Text
