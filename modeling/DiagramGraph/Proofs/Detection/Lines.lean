import DiagramGraph.Proofs.Detection.Rules
import DiagramGraph.Proofs.Text.Lines

/-!
# Detection line by line

A directive and an arrow stand on one line, and so does a keyword, but a keyword
at the end of a line can announce a word on a later one. So what a text shows is
what its lines show, apart from the announcements that go over a line end. The
same holds of the parts of a text on both sides of any blank.
-/

namespace DiagramGraph.Detection

open DiagramGraph.Text

/-! ## Over one blank -/

/-- A blank is none of the characters that are not blank. -/
theorem notMem_of_isBlank {stop : Char} (blankStop : isBlank stop = true) {fragment : List Char}
    (visible : fragment.any isBlank = false) : stop ∉ fragment := by
  intro member
  exact List.any_eq_false.1 visible stop member blankStop

section Blank

variable {stop : Char} (blankStop : isBlank stop = true) {front back : List Char}

include blankStop

/-- A directive at the start of a text stands in front of the first blank. -/
theorem directiveAt_append_iff {behind : List Char} :
    DirectiveAt (front ++ stop :: back) [] behind ↔
      ∃ inner, DirectiveAt front [] inner ∧ behind = inner ++ stop :: back := by
  have plain : stop ∉ directiveMark := notMem_of_isBlank blankStop (by decide)
  have outside := isWord_eq_false_of_isBlank blankStop
  have first (inner : List Char) : (∃ first ∈ (inner ++ stop :: back).head?, isWord first = true) ↔
      ∃ first ∈ inner.head?, isWord first = true := by
    rw [← takeWhile_ne_nil_iff, ← takeWhile_ne_nil_iff, takeWhile_append_stop outside]
  constructor
  · rintro ⟨split, word⟩
    obtain ⟨inner, rfl, rfl⟩ := (append_separator_eq_append plain).1 split
    exact ⟨inner, ⟨rfl, (first inner).1 word⟩, rfl⟩
  · rintro ⟨inner, ⟨rfl, word⟩, rfl⟩
    exact ⟨by simp, (first inner).2 word⟩

theorem directiveAt?_append (front back : List Char) :
    directiveAt? (front ++ stop :: back) = directiveAt? front := by
  have outside := isWord_eq_false_of_isBlank blankStop
  have word (inner : List Char) : directiveWord (inner ++ stop :: back) = directiveWord inner :=
    takeWhile_append_stop outside inner back
  ext found
  rw [directiveAt?_eq_some_iff, directiveAt?_eq_some_iff]
  constructor
  · rintro ⟨behind, opened, rfl⟩
    obtain ⟨inner, onLine, rfl⟩ := (directiveAt_append_iff blankStop).1 opened
    exact ⟨inner, onLine, (word inner).symm⟩
  · rintro ⟨inner, opened, rfl⟩
    exact ⟨_, (directiveAt_append_iff blankStop).2 ⟨inner, opened, rfl⟩, word inner⟩

/-- The directives of a text are those on both sides of a blank. -/
theorem directives_append (front back : List Char) :
    directives (front ++ stop :: back) = directives front ++ directives back := by
  induction front with
  | nil =>
      have plain : '@' ∉ [stop] := by
        rw [List.mem_singleton]
        rintro rfl
        revert blankStop
        decide
      exact directives_append_of_notMem plain back
  | cons char front ih =>
      have first := directiveAt?_append blankStop (char :: front) back
      rw [List.cons_append] at first ⊢
      rw [directives, directives, first, ih, List.append_assoc]

theorem containsArrow_append_iff :
    ContainsArrow (front ++ stop :: back) ↔ ContainsArrow front ∨ ContainsArrow back := by
  have noDash : stop ∉ ['-', '-'] := notMem_of_isBlank blankStop (by decide)
  have noHead : stop ∉ ['-', '>'] := notMem_of_isBlank blankStop (by decide)
  rw [ContainsArrow, infix_append_separator_iff noDash, infix_append_separator_iff noHead]
  exact or_or_or_comm

end Blank

/-- A keyword at the end of a text, with nothing but blanks behind. -/
def Pending (keyword text : List Char) : Prop :=
  ∃ before behind, KeywordAt keyword text before behind ∧ ∀ char ∈ behind, isBlank char = true

/-- The first character of a text that is not blank is a word character. -/
def WordAhead (text : List Char) : Prop :=
  ∃ gap, GapBeforeWord gap text

/-- A text with another character ahead has no word ahead, whatever follows. -/
theorem not_wordAhead_append {front back : List Char} {first : Char}
    (starts : (trim front).head? = some first) (outside : isWord first = false) :
    ¬ WordAhead (front ++ back) := by
  rintro ⟨gap, blank, other, rest, split, word⟩
  have reached : trimStart (front ++ back) = other :: rest := by
    rw [split]
    apply trimStart_append blank
    rintro char ⟨⟩
    exact isBlank_eq_false_of_isWord word
  rw [head?_trim] at starts
  obtain ⟨more, shape⟩ := List.head?_eq_some_iff.1 starts
  rw [trimStart] at shape reached
  rw [List.dropWhile_append, shape] at reached
  cases (List.cons.inj reached).1
  rw [word] at outside
  contradiction

section Announced

variable {stop : Char} (blankStop : isBlank stop = true) {front back : List Char}

include blankStop

theorem keywordAt_append_iff {keyword before behind : List Char} (plain : stop ∉ keyword) :
    KeywordAt keyword (front ++ stop :: back) before behind ↔
      (∃ inner, KeywordAt keyword front before inner ∧ behind = inner ++ stop :: back) ∨
        ∃ others, before = front ++ stop :: others ∧ KeywordAt keyword back others behind := by
  have outsideStop := isWord_eq_false_of_isBlank blankStop
  have apart (others : List Char) :
      (∀ last ∈ (front ++ stop :: others).getLast?, isWord last = false) ↔
        ∀ last ∈ others.getLast?, isWord last = false := by
    rw [List.getLast?_append, List.getLast?_cons, Option.some_or]
    cases others.getLast? with
    | none => simpa using outsideStop
    | some last => simp
  constructor
  · rintro ⟨split, outside⟩
    rcases (append_separator_eq_append_append plain).1 split with
      ⟨inner, rfl, rfl⟩ | ⟨others, rfl, rfl⟩
    · exact .inl ⟨inner, ⟨rfl, outside⟩, rfl⟩
    · exact .inr ⟨others, rfl, rfl, (apart others).1 outside⟩
  · rintro (⟨inner, ⟨rfl, outside⟩, rfl⟩ | ⟨others, rfl, rfl, outside⟩)
    · exact ⟨by simp, outside⟩
    · exact ⟨by simp, (apart others).2 outside⟩

/-- A gap reaches a word in front of the blank or goes over it. -/
theorem gapBeforeWord_append_iff {inner : List Char} :
    (∃ gap, gap ≠ [] ∧ GapBeforeWord gap (inner ++ stop :: back)) ↔
      (∃ gap, gap ≠ [] ∧ GapBeforeWord gap inner) ∨
        ((∀ char ∈ inner, isBlank char = true) ∧ WordAhead back) := by
  have outsideStop := isWord_eq_false_of_isBlank blankStop
  constructor
  · rintro ⟨gap, nonempty, blank, first, rest, split, word⟩
    rcases List.append_eq_append_iff.1 split with ⟨others, rfl, cut⟩ | ⟨others, rfl, cut⟩
    · cases others with
      | nil =>
          cases (List.cons.inj cut).1
          rw [outsideStop] at word
          contradiction
      | cons other others =>
          obtain ⟨rfl, rfl⟩ := List.cons.inj cut
          simp only [List.forall_mem_append, List.forall_mem_cons] at blank
          exact .inr ⟨blank.1, others, blank.2.2, first, rest, rfl, word⟩
    · cases others with
      | nil =>
          cases (List.cons.inj cut).1
          rw [outsideStop] at word
          contradiction
      | cons other others =>
          obtain ⟨rfl, rfl⟩ := List.cons.inj cut
          exact .inl ⟨gap, nonempty, blank, first, others, rfl, word⟩
  · rintro (⟨gap, nonempty, blank, first, rest, rfl, word⟩ |
      ⟨blankInner, gap, blank, first, rest, rfl, word⟩)
    · exact ⟨gap, nonempty, blank, first, rest ++ stop :: back, by simp, word⟩
    · refine ⟨inner ++ stop :: gap, by simp, ?_, first, rest, by simp, word⟩
      simp only [List.forall_mem_append, List.forall_mem_cons]
      exact ⟨blankInner, blankStop, blank⟩

/-- A keyword announces something on its own side of the blank or over it. -/
theorem announced_append_iff {keyword : List Char} (plain : stop ∉ keyword) :
    Announced keyword (front ++ stop :: back) ↔
      Announced keyword front ∨ (Pending keyword front ∧ WordAhead back) ∨
        Announced keyword back := by
  constructor
  · rintro ⟨before, behind, gap, found, nonempty, word⟩
    rcases (keywordAt_append_iff blankStop plain).1 found with
      ⟨inner, onLine, rfl⟩ | ⟨others, -, later⟩
    · rcases (gapBeforeWord_append_iff blankStop).1 ⟨gap, nonempty, word⟩ with
        ⟨gap, nonempty, word⟩ | ⟨blank, ahead⟩
      · exact .inl ⟨before, inner, gap, onLine, nonempty, word⟩
      · exact .inr (.inl ⟨⟨before, inner, onLine, blank⟩, ahead⟩)
    · exact .inr (.inr ⟨others, behind, gap, later, nonempty, word⟩)
  · have inFront {before inner : List Char} (found : KeywordAt keyword front before inner) :
        KeywordAt keyword (front ++ stop :: back) before (inner ++ stop :: back) :=
      (keywordAt_append_iff blankStop plain).2 (.inl ⟨inner, found, rfl⟩)
    rintro (⟨before, inner, gap, found, nonempty, word⟩ | ⟨⟨before, inner, found, blank⟩, ahead⟩ |
      ⟨others, behind, gap, found, nonempty, word⟩)
    · obtain ⟨gap, longer⟩ := (gapBeforeWord_append_iff blankStop).2 (.inl ⟨gap, nonempty, word⟩)
      exact ⟨before, _, gap, inFront found, longer⟩
    · obtain ⟨gap, longer⟩ := (gapBeforeWord_append_iff blankStop).2 (.inr ⟨blank, ahead⟩)
      exact ⟨before, _, gap, inFront found, longer⟩
    · exact ⟨_, behind, gap, (keywordAt_append_iff blankStop plain).2 (.inr ⟨others, rfl, found⟩),
        nonempty, word⟩

end Announced

/-! ## In nothing -/

section Nothing

variable {keyword : List Char} (nonempty : keyword ≠ [])

include nonempty

theorem not_keywordAt_nil (before behind : List Char) : ¬ KeywordAt keyword [] before behind := by
  rintro ⟨split, -⟩
  simp [nonempty] at split

theorem not_announced_nil : ¬ Announced keyword [] := by
  rintro ⟨before, behind, gap, found, -⟩
  exact not_keywordAt_nil nonempty before behind found

theorem not_pending_nil : ¬ Pending keyword [] := by
  rintro ⟨before, behind, found, -⟩
  exact not_keywordAt_nil nonempty before behind found

end Nothing

theorem not_wordAhead_nil : ¬ WordAhead [] := by
  rintro ⟨gap, -, first, rest, split, -⟩
  simp at split

theorem not_containsArrow_nil : ¬ ContainsArrow [] := by
  simp [ContainsArrow]

/-! ## Over joined lines -/

/-- A line end is blank. -/
theorem isBlank_lineEnd : isBlank '\n' = true := by
  decide

section Joined

variable (before after : List (List Char))

theorem directives_joined_append :
    directives (joined (before ++ after)) =
      directives (joined before) ++ directives (joined after) := by
  rcases joined_append_cases before after with ⟨rfl, same⟩ | ⟨rfl, same⟩ | same
  · rw [same]
    rfl
  · rw [same]
    exact (List.append_nil _).symm
  · rw [same, directives_append isBlank_lineEnd]

theorem containsArrow_joined_append_iff :
    ContainsArrow (joined (before ++ after)) ↔
      ContainsArrow (joined before) ∨ ContainsArrow (joined after) := by
  have empty : ¬ ContainsArrow (joined []) := not_containsArrow_nil
  rcases joined_append_cases before after with ⟨rfl, same⟩ | ⟨rfl, same⟩ | same
  · simp [empty]
  · simp [empty]
  · rw [same, containsArrow_append_iff isBlank_lineEnd]

theorem announced_joined_append_iff {keyword : List Char} (nonempty : keyword ≠ [])
    (plain : '\n' ∉ keyword) :
    Announced keyword (joined (before ++ after)) ↔
      Announced keyword (joined before) ∨
        (Pending keyword (joined before) ∧ WordAhead (joined after)) ∨
          Announced keyword (joined after) := by
  have notAnnounced : ¬ Announced keyword (joined []) := not_announced_nil nonempty
  have notPending : ¬ Pending keyword (joined []) := not_pending_nil nonempty
  have notAhead : ¬ WordAhead (joined []) := not_wordAhead_nil
  rcases joined_append_cases before after with ⟨rfl, same⟩ | ⟨rfl, same⟩ | same
  · simp [notAnnounced, notPending]
  · simp [notAnnounced, notAhead]
  · rw [same, announced_append_iff isBlank_lineEnd plain]

end Joined

end DiagramGraph.Detection
