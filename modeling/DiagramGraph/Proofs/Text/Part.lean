import DiagramGraph.Proofs.Text.Lines
import DiagramGraph.Proofs.Text.Tidy

/-!
# What is read off a line

A reader takes what it returns off the front of a text, so nothing it returns
holds a line end if the text has none. Words are runs of word characters, names
hold no quote, and what is trimmed is tidy.
-/

namespace DiagramGraph.Text

/-! ## Words and names -/

/-- The text is a non-empty run of word characters. -/
structure IsWordRun (text : List Char) : Prop where
  nonempty : text ≠ []
  word : ∀ char ∈ text, isWord char = true

/-- The text can be put in double quotes on one line, and it is not empty. -/
structure IsQuotable (text : List Char) : Prop where
  nonempty : text ≠ []
  unquoted : '"' ∉ text
  single : '\n' ∉ text

/-- A run of word characters needs no quotes. -/
theorem IsWordRun.isQuotable {text : List Char} (run : IsWordRun text) : IsQuotable text := by
  have other {char : Char} (separate : isWord char = false) : char ∉ text := by
    intro member
    rw [run.word char member] at separate
    contradiction
  exact ⟨run.nonempty, other (by decide), other (by decide)⟩

/-- What stands at the end of a single line is a single line. -/
theorem single_of_suffix {text rest : List Char} (suffix : rest <:+ text) (single : '\n' ∉ text) :
    '\n' ∉ rest :=
  fun member => single (suffix.subset member)

/-- Ends of ends can be chained. -/
instance transIsSuffix {α : Type} :
    Trans (@List.IsSuffix α) (@List.IsSuffix α) (@List.IsSuffix α) where
  trans := List.IsSuffix.trans

section Readers

variable {text rest word inner name found : List Char} {mark : Char}

theorem append_of_run? {belongs : Char → Bool} {run : List Char}
    (read : run? belongs text = some (run, rest)) : run ++ rest = text := by
  obtain ⟨-, taken, dropped⟩ := run?_eq_some_iff.1 read
  rw [← taken, ← dropped, List.takeWhile_append_dropWhile]

/-- A run is made of characters of its class. -/
theorem forall_of_run? {belongs : Char → Bool} {run : List Char}
    (read : run? belongs text = some (run, rest)) : ∀ char ∈ run, belongs char = true := by
  obtain ⟨-, taken, -⟩ := run?_eq_some_iff.1 read
  rw [← taken]
  exact fun char member => List.all_eq_true.1 List.all_takeWhile char member

theorem isWordRun_of_word? (read : word? text = some (word, rest)) : IsWordRun word :=
  ⟨(run?_eq_some_iff.1 read).1, forall_of_run? read⟩

theorem suffix_of_word? (read : word? text = some (word, rest)) : rest <:+ text :=
  ⟨word, append_of_run? read⟩

theorem suffix_of_trimStart (text : List Char) : trimStart text <:+ text :=
  List.dropWhile_suffix isBlank

/-- What stands behind a mark, with blanks allowed in front of it. -/
theorem suffix_behind_mark (shape : trimStart text = mark :: rest) : rest <:+ text := by
  have suffix := suffix_of_trimStart text
  rw [shape] at suffix
  exact (List.suffix_cons mark rest).trans suffix

theorem suffix_of_gap? (read : gap? text = some rest) : rest <:+ text := by
  obtain ⟨gap, -, -, -, split⟩ := gap?_eq_some_iff.1 read
  exact ⟨gap, split.symm⟩

theorem isWordRun_of_leadingWord? (read : leadingWord? text = some (word, rest)) :
    IsWordRun word := by
  obtain ⟨⟨found, behind⟩, run, others⟩ := Option.bind_eq_some_iff.1 read
  obtain ⟨remaining, -, same⟩ := Option.bind_eq_some_iff.1 others
  cases same
  exact isWordRun_of_word? run

theorem suffix_of_leadingWord? (read : leadingWord? text = some (word, rest)) :
    rest <:+ text := by
  obtain ⟨gap, split, -⟩ := exists_gap_of_leadingWord? read
  exact ⟨word ++ gap, by rw [split, List.append_assoc]⟩

/-- What is read up to a mark is what stands in front of the first one. -/
theorem upTo?_eq (read : upTo? mark text = some (inner, rest)) :
    mark ∉ inner ∧ text = inner ++ mark :: rest := by
  induction text generalizing inner with
  | nil => contradiction
  | cons char text ih =>
      rw [upTo?] at read
      split at read
      · next same =>
          cases read
          exact ⟨List.not_mem_nil, by rw [same, List.nil_append]⟩
      · next other =>
          obtain ⟨⟨more, remaining⟩, later, same⟩ := Option.map_eq_some_iff.1 read
          cases same
          obtain ⟨absent, split⟩ := ih later
          exact ⟨by simp [absent, Ne.symm other], by rw [split, List.cons_append]⟩

/-- A name is not empty and holds no quote, whether it is quoted or not. -/
theorem name?_eq (read : name? text = some (name, rest)) (single : '\n' ∉ text) :
    IsQuotable name ∧ rest <:+ text := by
  unfold name? at read
  split at read
  · next first more behind quoted =>
      cases read
      unfold quoted? at quoted
      split at quoted
      · obtain ⟨unquoted, split⟩ := upTo?_eq quoted
        rw [split] at single
        refine ⟨⟨List.cons_ne_nil first more, unquoted, by simp_all⟩, ?_⟩
        rw [split]
        exact ⟨'"' :: (first :: more) ++ ['"'], by simp⟩
      · contradiction
  · exact ⟨(isWordRun_of_word? read).isQuotable, suffix_of_word? read⟩

theorem aliasName?_eq (read : aliasName? text = some (name, rest)) :
    IsWordRun name ∧ rest <:+ text := by
  obtain ⟨behindGap, gap, read⟩ := Option.bind_eq_some_iff.1 read
  obtain ⟨⟨keyword, behindKeyword⟩, leading, read⟩ := Option.bind_eq_some_iff.1 read
  dsimp only at read
  split at read
  · exact ⟨isWordRun_of_word? read,
      (suffix_of_word? read).trans ((suffix_of_leadingWord? leading).trans (suffix_of_gap? gap))⟩
  · contradiction

theorem namePart?_eq {aliasName : Option (List Char)}
    (read : namePart? text = some (name, aliasName, rest)) (single : '\n' ∉ text) :
    IsQuotable name ∧ (∀ found ∈ aliasName, IsWordRun found) ∧ rest <:+ text := by
  obtain ⟨⟨found, behind⟩, named, read⟩ := Option.bind_eq_some_iff.1 read
  obtain ⟨quotable, suffix⟩ := name?_eq named single
  dsimp only at read
  split at read
  · next other remaining introduced =>
      cases read
      obtain ⟨run, further⟩ := aliasName?_eq introduced
      refine ⟨quotable, ?_, further.trans suffix⟩
      rintro found ⟨⟩
      exact run
  · cases read
    exact ⟨quotable, nofun, suffix⟩

/-! ## Trimmed texts -/

/-- Trimming leaves a part of a text. -/
theorem trim_subset (text : List Char) : trim text ⊆ text := by
  obtain ⟨before, after, split, -, -⟩ := exists_split_trim text
  intro char member
  rw [split]
  simp [member]

/-- Nothing more is trimmed away the second time. -/
theorem trim_trim (text : List Char) : trim (trim text) = trim text := by
  obtain ⟨before, after, split, blankBefore, blankAfter⟩ := exists_split_trim text
  calc
    trim (trim text) = trim (before ++ (trim text ++ after)) := by
      rw [trim_blanks_append blankBefore, trim_append_blanks blankAfter]
    _ = trim text := by rw [← split]

theorem tidy_trim (nonempty : trim text ≠ []) (single : '\n' ∉ text) : Tidy (trim text) :=
  tidy_iff.2 ⟨nonempty, trim_trim text, fun member => single (trim_subset text member)⟩

theorem tidy_of_nonBlank? (read : nonBlank? text = some found) (single : '\n' ∉ text) :
    Tidy found := by
  unfold nonBlank? at read
  split at read
  · contradiction
  · next first more shape =>
      cases read
      rw [← shape]
      exact tidy_trim (by rw [shape]; exact List.cons_ne_nil first more) single

theorem tidy_of_label? (read : label? text = some found) (single : '\n' ∉ text) : Tidy found := by
  unfold label? at read
  split at read
  · next shape => exact tidy_of_nonBlank? read (single_of_suffix (suffix_behind_mark shape) single)
  · contradiction

/-- A text between two marks is tidy, with the marks. -/
theorem tidy_of_upTo? {first : Char} (read : upTo? mark text = some (inner, rest))
    (single : '\n' ∉ text) (visibleFirst : isBlank first = false)
    (visibleMark : isBlank mark = false) : Tidy (first :: inner ++ [mark]) := by
  obtain ⟨-, rfl⟩ := upTo?_eq read
  simp only [List.mem_append, not_or] at single
  exact tidy_enclosed visibleFirst visibleMark single.1

/-- What stands behind the mark is an end of the text. -/
theorem suffix_of_upTo? (read : upTo? mark text = some (inner, rest)) : rest <:+ text := by
  obtain ⟨-, rfl⟩ := upTo?_eq read
  exact (List.suffix_cons mark rest).trans (List.suffix_append inner _)

/-! ## Further parts -/

/-- A text is still tidy if something tidy is put behind it, or nothing. -/
theorem Tidy.append_optional {front back : List Char} (tidy : Tidy front)
    (optional : back = [] ∨ Tidy back) : Tidy (front ++ back) := by
  rcases optional with rfl | tidyBack
  · rwa [List.append_nil]
  · exact tidy.append tidyBack

/-- A path is tidy. -/
theorem tidy_of_path {path : List Char} (read : run? isPathChar text = some (path, rest)) :
    Tidy path :=
  tidy_of_forall (run?_eq_some_iff.1 read).1 fun char member =>
    isBlank_eq_false_of_isPathChar (forall_of_run? read char member)

end Readers

/-- What is found somewhere in a text is found at the start of an end of it. -/
theorem exists_suffix_of_firstAtWord {α : Type} {reader : List Char → Option α} {inWord : Bool}
    {text : List Char} {found : α} (reading : firstAtWord reader inWord text = some found) :
    ∃ suffix, suffix <:+ text ∧ reader suffix = some found := by
  rcases exists_place_of_firstAtWord reading with ⟨front, back, rfl, -, -, read, -⟩
  exact ⟨back, List.suffix_append front back, read⟩

/-- A content line is a single line. -/
theorem single_of_mem_contentLines {source line : List Char} (member : line ∈ contentLines source) :
    '\n' ∉ line := by
  obtain ⟨listed, -⟩ := List.mem_filter.1 member
  obtain ⟨piece, inside, rfl⟩ := List.mem_map.1 listed
  exact fun found =>
    separator_notMem_of_mem_pieces '\n' source piece inside (trim_subset piece found)

end DiagramGraph.Text
