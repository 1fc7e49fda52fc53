import DiagramGraph.Proofs.Text.Casing
import DiagramGraph.Shape.Name

/-!
# Keys, display names and file names

Three texts belong to a shape: its key, the name under which it is shown and the
name of its file. Each of them gives back the key, so shapes with different keys
are told apart by any of the three. Keys are shown in their order, except that one
which begins with the underscore goes behind those that begin with a letter.
-/

namespace DiagramGraph.Shape

open DiagramGraph.Text

/-! ## Keys -/

theorem key?_eq_some_iff {name key : String} :
    key? name = some key ↔
      name.toList ≠ [] ∧ name.toList.all isAsciiWord = true ∧
        String.ofList (asciiLower name.toList) = key := by
  rw [key?]
  split
  · next valid =>
      rw [Bool.and_eq_true, bne_iff_ne] at valid
      rw [Option.some.injEq]
      exact ⟨fun same => ⟨valid.1, valid.2, same⟩, fun found => found.2.2⟩
  · next invalid =>
      rw [Bool.and_eq_true, bne_iff_ne] at invalid
      constructor
      · intro found
        contradiction
      · rintro ⟨nonempty, word, -⟩
        exact absurd ⟨nonempty, word⟩ invalid

theorem isAscii_of_key? {name key : String} (named : key? name = some key) :
    IsAscii name.toList :=
  isAscii_of_isAsciiWord (key?_eq_some_iff.1 named).2.1

/-- Texts that agree up to case have the same key. -/
theorem key?_congr {first second : String}
    (folded : asciiLower first.toList = asciiLower second.toList)
    (word : first.toList.all isAsciiWord = second.toList.all isAsciiWord) :
    key? first = key? second := by
  have empty : (first.toList != []) = (second.toList != []) := by
    have lengths := congrArg List.length folded
    simp only [asciiLower, List.length_map] at lengths
    rw [Bool.eq_iff_iff, bne_iff_ne, bne_iff_ne, ← List.length_pos_iff, ← List.length_pos_iff,
      lengths]
  rw [key?, key?, empty, word, folded]

/-- A key is its own key. -/
theorem key?_key {name key : String} (named : key? name = some key) : key? key = some key := by
  have ascii := isAscii_of_key? named
  have shape := (key?_eq_some_iff.1 named).2.2
  have same : key? key = key? name := by
    apply key?_congr
    · rw [← shape, String.toList_ofList, asciiLower_asciiLower ascii]
    · rw [← shape, String.toList_ofList, all_isAsciiWord_asciiLower ascii]
  rw [same, named]

/-! ## Display names -/

section Displayed

variable {stem : String} (ascii : IsAscii stem.toList)

include ascii

/-- An ASCII text is shown under a name with the same key. -/
theorem key?_displayName : key? (displayName stem) = key? stem := by
  cases shape : stem.toList with
  | nil => rw [displayName, shape, key?, key?, shape]; rfl
  | cons first rest =>
      rw [shape] at ascii
      apply key?_congr
      · rw [displayName, String.toList_ofList, shape, asciiLower_capitalize_cons ascii]
      · rw [displayName, String.toList_ofList, shape, all_isAsciiWord_capitalize_cons ascii]

end Displayed

/-- A name and its key are shown alike. -/
theorem displayName_key {name key : String} (named : key? name = some key) :
    displayName key = displayName name := by
  have ascii := isAscii_of_key? named
  rcases key?_eq_some_iff.1 named with ⟨nonempty, -, shape⟩
  rcases List.exists_cons_of_ne_nil nonempty with ⟨first, rest, split⟩
  rw [split] at ascii shape
  rw [displayName, displayName, ← shape, String.toList_ofList, split,
    capitalize_asciiLower_cons ascii]

/-- Different keys are shown differently. -/
theorem displayName_inj {first second : String} (firstKey : key? first = some first)
    (secondKey : key? second = some second) (same : displayName first = displayName second) :
    first = second := by
  have shown := key?_displayName (isAscii_of_key? firstKey)
  rw [same, key?_displayName (isAscii_of_key? secondKey), secondKey, firstKey] at shown
  exact (Option.some.inj shown).symm

/-! ## The order of display names -/

/-- A key begins with a word character in lower case, which is the only one that
is changed where the key is shown. -/
theorem exists_initial {key : String} (named : key? key = some key) :
    ∃ initial rest, key.toList = initial :: rest ∧ isAsciiWord initial = true ∧
      initial.toLower = initial ∧ (displayName key).toList = initial.toUpper :: rest := by
  have ascii := isAscii_of_key? named
  rcases key?_eq_some_iff.1 named with ⟨nonempty, word, folded⟩
  rcases List.exists_cons_of_ne_nil nonempty with ⟨initial, rest, split⟩
  rw [split] at ascii word folded
  have same := congrArg String.toList folded
  rw [String.toList_ofList, split, asciiLower_cons, List.cons.injEq] at same
  rw [List.all_cons, Bool.and_eq_true] at word
  refine ⟨initial, rest, split, word.1, same.1, ?_⟩
  rw [displayName, String.toList_ofList, split, capitalize_cons ascii, same.2]

/-- Whether two keys change places when they are shown: one begins with the
underscore, the other with a letter. -/
def ChangePlaces (first second : String) : Prop :=
  first.toList.head? = some '_' ∧ ∃ initial ∈ second.toList.head?, initial.isLower = true

section Order

variable {first second : String} (firstKey : key? first = some first)
  (secondKey : key? second = some second)

include firstKey secondKey

/-- Keys are shown in their order, unless they change places. -/
theorem displayName_lt (below : first < second) (straight : ¬ ChangePlaces first second) :
    displayName first < displayName second := by
  rcases exists_initial firstKey with ⟨one, rest, split, word, folded, shown⟩
  rcases exists_initial secondKey with ⟨two, others, otherSplit, otherWord, otherFolded, otherShown⟩
  rw [String.lt_iff, split, otherSplit, List.cons_lt_cons_iff] at below
  rw [String.lt_iff, shown, otherShown, List.cons_lt_cons_iff]
  rcases below with before | ⟨same, tails⟩
  · apply Or.inl
    apply toUpper_lt_toUpper word folded otherWord otherFolded before
    rintro ⟨underscore, letter⟩
    apply straight
    rw [ChangePlaces, split, otherSplit, underscore]
    exact ⟨rfl, two, rfl, letter⟩
  · exact Or.inr ⟨congrArg Char.toUpper same, tails⟩

/-- Keys that change places are shown the other way round. -/
theorem lt_of_changePlaces (swapped : ChangePlaces first second) :
    first < second ∧ displayName second < displayName first := by
  rcases exists_initial firstKey with ⟨one, rest, split, -, -, shown⟩
  rcases exists_initial secondKey with ⟨two, others, otherSplit, -, -, otherShown⟩
  rcases swapped with ⟨underscore, initial, head, letter⟩
  rw [split, List.head?_cons, Option.some.injEq] at underscore
  rw [otherSplit, List.head?_cons, Option.mem_some_iff] at head
  rw [underscore] at split shown
  rw [← head] at letter
  have between := underscore_between letter
  rw [String.lt_iff, String.lt_iff, shown, otherShown, split, otherSplit, List.cons_lt_cons_iff,
    List.cons_lt_cons_iff]
  exact ⟨Or.inl between.2, Or.inl between.1⟩

end Order

/-! ## File names -/

/-- The stem of a file name is what stands in front of the ending. -/
theorem stem?_eq_some_iff {file stem : String} : stem? file = some stem ↔ file = fileName stem := by
  have back : file = fileName stem ↔ file.toList = stem.toList ++ fileEnding.toList := by
    rw [fileName, ← String.toList_append, String.toList_inj]
  rw [back, stem?]
  split
  · next ending =>
      rcases List.isSuffixOf_iff_suffix.1 ending with ⟨front, split⟩
      have taken : file.toList.take (file.toList.length - fileEnding.toList.length) = front := by
        rw [← split, List.length_append, Nat.add_sub_cancel, List.take_left]
      rw [taken, ← split, Option.some.injEq, List.append_cancel_right_eq]
      constructor
      · rintro rfl
        rw [String.toList_ofList]
      · rintro rfl
        rw [String.ofList_toList]
  · next other =>
      constructor
      · intro found
        contradiction
      · intro split
        exact absurd (List.isSuffixOf_iff_suffix.2 ⟨stem.toList, split.symm⟩) other

theorem fileName_inj {first second : String} :
    fileName first = fileName second ↔ first = second := by
  rw [← stem?_eq_some_iff, stem?_eq_some_iff.2 rfl, Option.some.injEq]

end DiagramGraph.Shape
