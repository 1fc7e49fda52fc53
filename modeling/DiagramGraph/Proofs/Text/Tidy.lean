import DiagramGraph.Proofs.Text.Run

/-!
# Tidy texts

A tidy text is what trimming leaves of a line that is not empty. Tidy texts can
be put one behind the other, with a blank between them or without, and blanks
around a tidy text are trimmed away.
-/

namespace DiagramGraph.Text

/-! ## Blanks and word characters -/

/-- No code point of the blank ranges is that of a word character. -/
theorem isWord_eq_false_of_mem_blankRanges :
    ∀ range ∈ blankRanges, ∀ code ∈ List.range' range.first (range.last - range.first + 1),
      isWord (Char.ofNat code) = false := by
  decide +kernel

theorem isWord_eq_false_of_isBlank {char : Char} (blank : isBlank char = true) :
    isWord char = false := by
  obtain ⟨range, member, least, greatest⟩ := (CodeRange.covers_iff _ _).1 blank
  have listed : char.toNat ∈ List.range' range.first (range.last - range.first + 1) := by
    rw [List.mem_range'_1]
    omega
  have separate := isWord_eq_false_of_mem_blankRanges range member char.toNat listed
  rwa [Char.ofNat_toNat] at separate

theorem isBlank_eq_false_of_isWord {char : Char} (word : isWord char = true) :
    isBlank char = false := by
  by_cases blank : isBlank char = true
  · have separate := isWord_eq_false_of_isBlank blank
    rw [word] at separate
    contradiction
  · simpa using blank

theorem isBlank_eq_false_of_isPathChar {char : Char} (path : isPathChar char = true) :
    isBlank char = false := by
  simp only [isPathChar, Bool.or_eq_true, beq_iff_eq] at path
  rcases path with word | rfl
  · exact isBlank_eq_false_of_isWord word
  · decide

/-! ## Tidy texts -/

/-- The text is not empty, stands on one line, and has no blank at either
end. -/
structure Tidy (text : List Char) : Prop where
  start : ∃ first ∈ text.head?, isBlank first = false
  finish : ∃ last ∈ text.getLast?, isBlank last = false
  single : '\n' ∉ text

theorem Tidy.ne_nil {text : List Char} (tidy : Tidy text) : text ≠ [] := by
  rintro rfl
  obtain ⟨first, starts, -⟩ := tidy.start
  simp at starts

/-- What begins with a tidy text does not begin with a blank. -/
theorem Tidy.head_append {text : List Char} (tidy : Tidy text) (rest : List Char) :
    ∀ char ∈ (text ++ rest).head?, isBlank char = false := by
  obtain ⟨first, starts, visible⟩ := tidy.start
  intro char member
  rw [List.head?_append, starts, Option.some_or] at member
  cases member
  exact visible

/-- Tidy texts with something on the same line between them are tidy. -/
theorem Tidy.join {front back : List Char} (tidyFront : Tidy front) (tidyBack : Tidy back)
    {between : List Char} (single : '\n' ∉ between) : Tidy (front ++ (between ++ back)) where
  start := by
    obtain ⟨first, starts, visible⟩ := tidyFront.start
    exact ⟨first, by simp [List.head?_append, Option.mem_def.1 starts], visible⟩
  finish := by
    obtain ⟨last, ends, visible⟩ := tidyBack.finish
    exact ⟨last, by simp [List.getLast?_append, Option.mem_def.1 ends], visible⟩
  single := by simp [tidyFront.single, tidyBack.single, single]

theorem Tidy.append {front back : List Char} (tidyFront : Tidy front) (tidyBack : Tidy back) :
    Tidy (front ++ back) := by
  have joined : Tidy (front ++ ([] ++ back)) := tidyFront.join tidyBack (by simp)
  rwa [List.nil_append] at joined

/-- A text whose characters are all of a class without blanks is tidy. -/
theorem tidy_of_forall {text : List Char} (nonempty : text ≠ [])
    (visible : ∀ char ∈ text, isBlank char = false) : Tidy text where
  start := by
    obtain ⟨first, rest, rfl⟩ := List.exists_cons_of_ne_nil nonempty
    exact ⟨first, rfl, visible first (by simp)⟩
  finish := by
    refine ⟨text.getLast nonempty, List.getLast?_eq_some_getLast nonempty, ?_⟩
    exact visible _ (List.getLast_mem nonempty)
  single := by
    intro member
    have blank : isBlank '\n' = true := by decide
    rw [visible '\n' member] at blank
    contradiction

/-- Marks at both ends make a text tidy. -/
theorem tidy_enclosed {first last : Char} {inner : List Char} (visibleFirst : isBlank first = false)
    (visibleLast : isBlank last = false) (single : '\n' ∉ inner) :
    Tidy (first :: (inner ++ [last])) := by
  have front : Tidy [first] := tidy_of_forall (by simp) (by simpa using visibleFirst)
  have back : Tidy [last] := tidy_of_forall (by simp) (by simpa using visibleLast)
  exact front.join back single

/-! ## Trimming -/

theorem trimStart_append {blanks text : List Char} (blank : ∀ char ∈ blanks, isBlank char = true)
    (visible : ∀ char ∈ text.head?, isBlank char = false) : trimStart (blanks ++ text) = text :=
  dropWhile_run_append blank visible

theorem trimStart_eq_self {text : List Char} (visible : ∀ char ∈ text.head?, isBlank char = false) :
    trimStart text = text := by
  have trimmed : trimStart ([] ++ text) = text := trimStart_append (by simp) visible
  rwa [List.nil_append] at trimmed

/-- Blanks around a tidy text are trimmed away. -/
theorem trim_padded {before text after : List Char} (tidy : Tidy text)
    (blankBefore : ∀ char ∈ before, isBlank char = true)
    (blankAfter : ∀ char ∈ after, isBlank char = true) :
    trim (before ++ (text ++ after)) = text := by
  have front : trimStart (before ++ (text ++ after)) = text ++ after :=
    trimStart_append blankBefore (tidy.head_append after)
  have back : trimStart (after.reverse ++ text.reverse) = text.reverse := by
    apply trimStart_append
    · simpa using blankAfter
    · obtain ⟨last, ends, visible⟩ := tidy.finish
      rw [List.head?_reverse, ends]
      rintro char ⟨⟩
      exact visible
  rw [trim, front, trimEnd, List.reverse_append, back, List.reverse_reverse]

theorem trim_eq_self {text : List Char} (tidy : Tidy text) : trim text = text := by
  have trimmed : trim ([] ++ (text ++ [])) = text := trim_padded tidy (by simp) (by simp)
  rwa [List.nil_append, List.append_nil] at trimmed

/-- Nothing is left of blanks. -/
theorem trim_eq_nil {blanks : List Char} (blank : ∀ char ∈ blanks, isBlank char = true) :
    trim blanks = [] := by
  have start : trimStart (blanks ++ []) = [] := trimStart_append blank (by simp)
  rw [List.append_nil] at start
  rw [trim, start]
  rfl

/-- Further blanks at the start are trimmed away as well. -/
theorem trim_blanks_append {blanks : List Char} (blank : ∀ char ∈ blanks, isBlank char = true)
    (text : List Char) : trim (blanks ++ text) = trim text := by
  rw [trim, trimStart, List.dropWhile_append_of_pos blank]
  rfl

/-- Further blanks at the end are trimmed away as well. -/
theorem trim_append_blanks {blanks : List Char} (blank : ∀ char ∈ blanks, isBlank char = true)
    (text : List Char) : trim (text ++ blanks) = trim text := by
  have finish (rest : List Char) : trimEnd (rest ++ blanks) = trimEnd rest := by
    have reversed : ∀ char ∈ blanks.reverse, isBlank char = true := by simpa using blank
    rw [trimEnd, List.reverse_append, trimStart, List.dropWhile_append_of_pos reversed]
    rfl
  rw [trim, trim, trimStart, trimStart, List.dropWhile_append]
  split
  · next empty =>
      rw [List.isEmpty_iff.1 empty, ← List.append_nil blanks, List.dropWhile_append_of_pos blank]
      rfl
  · exact finish _

/-- Nothing is trimmed away in front of a visible character. -/
theorem trimEnd_append {front : List Char} (finish : ∃ last ∈ front.getLast?, isBlank last = false)
    (back : List Char) : trimEnd (front ++ back) = front ++ trimEnd back := by
  obtain ⟨last, ends, visible⟩ := finish
  have kept : trimStart front.reverse = front.reverse := by
    apply trimStart_eq_self
    rw [List.head?_reverse, ends]
    rintro char ⟨⟩
    exact visible
  rw [trimEnd, trimEnd, List.reverse_append, trimStart, List.dropWhile_append]
  split
  · next empty =>
      rw [trimStart, List.isEmpty_iff.1 empty, ← trimStart, kept, List.reverse_reverse,
        List.reverse_nil, List.append_nil]
  · rw [List.reverse_append, List.reverse_reverse, trimStart]

/-- A text that loses nothing at its start does not begin with a blank. -/
theorem head_of_trimStart_eq_self {text : List Char} (trimmed : trimStart text = text) :
    ∀ char ∈ text.head?, isBlank char = false := by
  rintro first starts
  obtain ⟨rest, rfl⟩ := List.head?_eq_some_iff.1 starts
  cases blank : isBlank first with
  | false => rfl
  | true =>
      have shorter : (trimStart rest).length ≤ rest.length :=
        (List.dropWhile_suffix isBlank).sublist.length_le
      have same : trimStart rest = first :: rest := by
        rw [← trimmed, trimStart, trimStart, List.dropWhile_cons_of_pos blank]
      rw [same, List.length_cons] at shorter
      omega

/-- The tidy texts are those that stand on one line, are not empty, and that
trimming leaves alone. -/
theorem tidy_iff {text : List Char} : Tidy text ↔ text ≠ [] ∧ trim text = text ∧ '\n' ∉ text := by
  constructor
  · intro tidy
    exact ⟨tidy.ne_nil, trim_eq_self tidy, tidy.single⟩
  · rintro ⟨nonempty, trimmed, single⟩
    have longer : text.length ≤ (trimStart text).length := by
      calc
        _ = (trim text).length := by rw [trimmed]
        _ = (trimStart (trimStart text).reverse).length := by
          rw [trim, trimEnd, List.length_reverse]
        _ ≤ (trimStart text).reverse.length := (List.dropWhile_suffix isBlank).sublist.length_le
        _ = _ := List.length_reverse
    have front : trimStart text = text := (List.dropWhile_suffix isBlank).eq_of_length_le longer
    have back : trimStart text.reverse = text.reverse := by
      rw [trim, front, trimEnd] at trimmed
      rw [← List.reverse_inj, trimmed, List.reverse_reverse]
    have visibleFront := head_of_trimStart_eq_self front
    have visibleBack := head_of_trimStart_eq_self back
    rw [List.head?_reverse, List.getLast?_eq_some_getLast nonempty] at visibleBack
    rw [List.head?_eq_some_head nonempty] at visibleFront
    exact
      { start := ⟨_, List.head?_eq_some_head nonempty, visibleFront _ rfl⟩
        finish := ⟨_, List.getLast?_eq_some_getLast nonempty, visibleBack _ rfl⟩
        single := single }

/-- What is left of a trimmed start does not begin with a blank. -/
theorem head_trimStart (text : List Char) :
    ∀ char ∈ (trimStart text).head?, isBlank char = false :=
  head_dropWhile isBlank text

/-- Trimming the end leaves the start as it is. -/
theorem head?_trim (text : List Char) : (trim text).head? = (trimStart text).head? := by
  have visible := head_trimStart text
  rw [trim]
  cases shape : trimStart text with
  | nil => rfl
  | cons first rest =>
      rw [shape] at visible
      rw [trimEnd, trimStart, List.reverse_cons, List.dropWhile_append]
      split
      · simp [visible first rfl]
      · simp

/-- What trimming takes away is blank. -/
theorem exists_split_trim (text : List Char) :
    ∃ before after, text = before ++ (trim text ++ after) ∧
      (∀ char ∈ before, isBlank char = true) ∧ ∀ char ∈ after, isBlank char = true := by
  have dropped (side : List Char) : ∀ char ∈ side.takeWhile isBlank, isBlank char = true :=
    fun char member => List.all_eq_true.1 List.all_takeWhile char member
  have front : text.takeWhile isBlank ++ trimStart text = text := List.takeWhile_append_dropWhile
  have back :
      trim text ++ ((trimStart text).reverse.takeWhile isBlank).reverse = trimStart text := by
    rw [trim, trimEnd, trimStart, ← List.reverse_append, List.takeWhile_append_dropWhile,
      List.reverse_reverse]
  refine ⟨text.takeWhile isBlank, _, by rw [back, front], dropped text, ?_⟩
  intro char member
  exact dropped _ char (List.mem_reverse.1 member)

/-- A gap is skipped as a whole, and it is not empty. -/
theorem gap?_eq_some_iff {text rest : List Char} :
    gap? text = some rest ↔
      ∃ gap, gap ≠ [] ∧ (∀ char ∈ gap, isBlank char = true) ∧
        (∀ char ∈ rest.head?, isBlank char = false) ∧ text = gap ++ rest := by
  constructor
  · intro skipped
    cases text with
    | nil => contradiction
    | cons char text =>
        rw [gap?] at skipped
        split at skipped
        · next blank =>
            cases skipped
            refine ⟨char :: text.takeWhile isBlank, by simp, ?_, head_trimStart text, ?_⟩
            · simp only [List.forall_mem_cons]
              exact ⟨blank, fun other member => List.all_eq_true.1 List.all_takeWhile other member⟩
            · rw [List.cons_append, trimStart, List.takeWhile_append_dropWhile]
        · contradiction
  · rintro ⟨gap, nonempty, blank, visible, rfl⟩
    obtain ⟨first, more, rfl⟩ := List.exists_cons_of_ne_nil nonempty
    simp only [List.forall_mem_cons] at blank
    rw [List.cons_append, gap?, if_pos blank.1, trimStart_append blank.2 visible]

/-- A leading word is a run of word characters in front of a gap. -/
theorem exists_gap_of_leadingWord? {text word rest : List Char}
    (read : leadingWord? text = some (word, rest)) :
    ∃ gap, text = word ++ (gap ++ rest) ∧ (∀ char ∈ word, isWord char = true) ∧ gap ≠ [] ∧
      ∀ char ∈ gap, isBlank char = true := by
  obtain ⟨⟨found, behind⟩, run, others⟩ := Option.bind_eq_some_iff.1 read
  obtain ⟨remaining, skipped, same⟩ := Option.bind_eq_some_iff.1 others
  cases same
  obtain ⟨-, taken, dropped⟩ := run?_eq_some_iff.1 run
  obtain ⟨gap, nonempty, blank, -, split⟩ := gap?_eq_some_iff.1 skipped
  refine ⟨gap, ?_, ?_, nonempty, blank⟩
  · rw [← split, ← taken, ← dropped, List.takeWhile_append_dropWhile]
  · rw [← taken]
    exact fun char member => List.all_eq_true.1 List.all_takeWhile char member

theorem nonBlank?_padded {before text after : List Char} (tidy : Tidy text)
    (blankBefore : ∀ char ∈ before, isBlank char = true)
    (blankAfter : ∀ char ∈ after, isBlank char = true) :
    nonBlank? (before ++ (text ++ after)) = some text := by
  obtain ⟨first, rest, shape⟩ := List.exists_cons_of_ne_nil tidy.ne_nil
  rw [nonBlank?, trim_padded tidy blankBefore blankAfter, shape]

end DiagramGraph.Text
