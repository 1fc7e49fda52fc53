import DiagramGraph.Text.Line

/-!
# Lines and their text

A text is cut into lines and joined from lines, and what holds no line end
itself stands within one line. So whatever is looked for in a text of several
lines can be looked for in its parts, if it holds no line end.
-/

namespace DiagramGraph.Text

/-! ## Pieces of a text -/

theorem pieces_of_notMem {separator : Char} {text : List Char} (plain : separator ∉ text) :
    pieces separator text = [text] := by
  induction text with
  | nil => rfl
  | cons char text ih =>
      simp only [List.mem_cons, not_or] at plain
      simp [pieces, Ne.symm plain.1, ih plain.2]

/-- A separator keeps the pieces of two texts apart. -/
theorem pieces_append_separator (separator : Char) (front back : List Char) :
    pieces separator (front ++ separator :: back) =
      pieces separator front ++ pieces separator back := by
  induction front with
  | nil => simp [pieces]
  | cons char front ih =>
      rw [List.cons_append, pieces, ih, pieces]
      obtain ⟨piece, others, shape⟩ := List.exists_cons_of_ne_nil (pieces_ne_nil separator front)
      rw [shape]
      split
      · rfl
      · rfl

/-- What stands before a separator is the first piece. -/
theorem pieces_append {separator : Char} {text : List Char} (plain : separator ∉ text)
    (rest : List Char) : pieces separator (text ++ separator :: rest) =
      text :: pieces separator rest := by
  rw [pieces_append_separator, pieces_of_notMem plain, List.singleton_append]

/-- A text has at least as many characters as pieces that are not empty. -/
theorem countP_pieces_le (separator : Char) (text : List Char) :
    (pieces separator text).countP (!·.isEmpty) ≤ text.length := by
  induction text with
  | nil => simp [pieces]
  | cons char text ih =>
      rw [pieces, List.length_cons]
      split
      · rw [List.countP_cons_of_neg (by decide)]
        omega
      · obtain ⟨piece, others, shape⟩ :=
          List.exists_cons_of_ne_nil (pieces_ne_nil separator text)
        rw [shape] at ih ⊢
        have fewer : others.countP (!·.isEmpty) ≤ (piece :: others).countP (!·.isEmpty) :=
          (List.sublist_cons_self piece others).countP_le
        rw [List.countP_cons_of_pos rfl]
        omega

/-- Lines that are written one behind the other are found again. -/
theorem pieces_flatMap {separator : Char} {first : List Char} {texts : List (List Char)}
    (plainFirst : separator ∉ first) (plain : ∀ text ∈ texts, separator ∉ text) :
    pieces separator (first ++ texts.flatMap (separator :: ·)) = first :: texts := by
  induction texts generalizing first with
  | nil => simp [pieces_of_notMem plainFirst]
  | cons text texts ih =>
      have rest := ih (plain text (by simp)) fun other member => plain other (by simp [member])
      rw [List.flatMap_cons, List.cons_append, pieces_append plainFirst, rest]

/-! ## Joining lines -/

/-- The text of some lines. -/
def joined (lines : List (List Char)) : List Char :=
  ['\n'].intercalate lines

theorem joined_lines (source : List Char) : joined (lines source) = source :=
  intercalate_pieces '\n' source

theorem joined_singleton (line : List Char) : joined [line] = line := by
  simp [joined]

theorem joined_cons (line : List Char) (lines : List (List Char)) :
    joined (line :: lines) = line ++ lines.flatMap ('\n' :: ·) := by
  induction lines generalizing line with
  | nil => simp [joined]
  | cons other lines ih =>
      have behind := ih other
      rw [joined] at behind ⊢
      rw [List.intercalate_cons_cons, behind]
      simp

/-- The lines of joined lines are the lines. -/
theorem lines_joined {parts : List (List Char)} (nonempty : parts ≠ [])
    (single : ∀ line ∈ parts, '\n' ∉ line) : lines (joined parts) = parts := by
  obtain ⟨line, others, rfl⟩ := List.exists_cons_of_ne_nil nonempty
  simp only [List.forall_mem_cons] at single
  rw [joined_cons, lines, pieces_flatMap single.1 single.2]

/-- Between lines and further lines there is a line end, if there are any on
both sides. -/
theorem joined_append_cases (before after : List (List Char)) :
    (before = [] ∧ joined (before ++ after) = joined after) ∨
      (after = [] ∧ joined (before ++ after) = joined before) ∨
      joined (before ++ after) = joined before ++ '\n' :: joined after := by
  cases before with
  | nil => exact .inl ⟨rfl, rfl⟩
  | cons line before =>
      cases after with
      | nil => exact .inr (.inl ⟨rfl, by rw [List.append_nil]⟩)
      | cons other after =>
          right; right
          simp [joined_cons]

/-! ## Lines of content -/

/-- A line end keeps the content of two texts apart. -/
theorem contentLines_append (front back : List Char) :
    contentLines (front ++ '\n' :: back) = contentLines front ++ contentLines back := by
  rw [contentLines, lines, pieces_append_separator, List.map_append, List.filter_append]
  rfl

theorem contentLines_of_notMem {line : List Char} (single : '\n' ∉ line) :
    contentLines line = [trim line].filter isContent := by
  rw [contentLines, lines, pieces_of_notMem single]
  rfl

/-- A source has at least as many characters as content lines. -/
theorem length_contentLines_le (source : List Char) :
    (contentLines source).length ≤ source.length := by
  rw [contentLines, ← List.countP_eq_length_filter, List.countP_map]
  have content :
      ∀ line ∈ lines source, (isContent ∘ trim) line = true → (!line.isEmpty) = true := by
    intro line _ shown
    cases line with
    | nil => contradiction
    | cons => rfl
  exact Nat.le_trans (List.countP_mono_left content) (countP_pieces_le '\n' source)

/-! ## What stands within a line -/

section Within

variable {separator : Char} {fragment front back : List Char}

/-- A text without separator at the start of a text stands in front of the first
separator. -/
theorem append_separator_eq_append {behind : List Char} (plain : separator ∉ fragment) :
    front ++ separator :: back = fragment ++ behind ↔
      ∃ inner, front = fragment ++ inner ∧ behind = inner ++ separator :: back := by
  constructor
  · intro same
    rcases List.append_eq_append_iff.1 same with ⟨others, rfl, split⟩ | ⟨others, rfl, split⟩
    · cases others with
      | nil => exact ⟨[], by simp, by simpa using split.symm⟩
      | cons first others =>
          cases (List.cons.inj split).1
          simp at plain
    · exact ⟨others, rfl, split⟩
  · rintro ⟨inner, rfl, rfl⟩
    rw [List.append_assoc]

/-- A text without separator stands in front of a separator or behind it. -/
theorem append_separator_eq_append_append {before behind : List Char}
    (plain : separator ∉ fragment) :
    front ++ separator :: back = before ++ (fragment ++ behind) ↔
      (∃ inner, front = before ++ (fragment ++ inner) ∧ behind = inner ++ separator :: back) ∨
        ∃ others,
          before = front ++ separator :: others ∧ back = others ++ (fragment ++ behind) := by
  constructor
  · intro same
    rcases List.append_eq_append_iff.1 same with ⟨others, rfl, split⟩ | ⟨others, rfl, split⟩
    · cases others with
      | nil =>
          have start : [] ++ separator :: back = fragment ++ behind := split
          obtain ⟨inner, empty, rfl⟩ := (append_separator_eq_append plain).1 start
          exact .inl ⟨inner, by simp [← empty], rfl⟩
      | cons first others =>
          obtain ⟨rfl, rfl⟩ := List.cons.inj split
          exact .inr ⟨others, rfl, rfl⟩
    · obtain ⟨inner, rfl, rfl⟩ := (append_separator_eq_append plain).1 split.symm
      exact .inl ⟨inner, rfl, rfl⟩
  · rintro (⟨inner, rfl, rfl⟩ | ⟨others, rfl, rfl⟩)
    · simp
    · simp

theorem infix_append_separator_iff (plain : separator ∉ fragment) :
    fragment <:+: front ++ separator :: back ↔ fragment <:+: front ∨ fragment <:+: back := by
  constructor
  · rintro ⟨before, behind, split⟩
    rw [List.append_assoc] at split
    rcases (append_separator_eq_append_append plain).1 split.symm with
      ⟨inner, rfl, -⟩ | ⟨others, -, rfl⟩
    · exact .inl ⟨before, inner, by rw [List.append_assoc]⟩
    · exact .inr ⟨others, behind, by rw [List.append_assoc]⟩
  · rintro (found | found)
    · exact found.trans (List.prefix_append front _).isInfix
    · have behind : back <:+ front ++ separator :: back :=
        (List.suffix_cons separator back).trans (List.suffix_append front _)
      exact found.trans behind.isInfix

end Within

end DiagramGraph.Text
