import DiagramGraph.Detection
import DiagramGraph.Proofs.Text.Tidy

/-!
# What a source shows of its kind

The scans that look for directives, announcements and arrows find exactly what
stands in the text. An occurrence is given by what stands before it and what
stands behind it, so of two occurrences the one with the shorter text before it
comes first.
-/

namespace DiagramGraph.Detection

open DiagramGraph.Text

/-! ## Directives -/

/-- A directive in a source: its mark, with a word character directly behind. -/
structure DirectiveAt (source before behind : List Char) : Prop where
  split : source = before ++ (directiveMark ++ behind)
  word : ∃ first ∈ behind.head?, isWord first = true

/-- The word of a directive: the word characters behind its mark, as many as
there are. -/
def directiveWord (behind : List Char) : List Char :=
  behind.takeWhile isWord

theorem not_directiveAt_nil {before behind : List Char} : ¬ DirectiveAt [] before behind := by
  intro found
  have split := found.split
  simp [directiveMark] at split

theorem DirectiveAt.cons {source before behind : List Char}
    (found : DirectiveAt source before behind) (char : Char) :
    DirectiveAt (char :: source) (char :: before) behind :=
  ⟨by rw [found.split, List.cons_append], found.word⟩

/-- A directive stands at the start of a text or behind its first character. -/
theorem directiveAt_cons_iff {char : Char} {rest before behind : List Char} :
    DirectiveAt (char :: rest) before behind ↔
      (before = [] ∧ DirectiveAt (char :: rest) [] behind) ∨
        ∃ others, before = char :: others ∧ DirectiveAt rest others behind := by
  constructor
  · intro found
    cases before with
    | nil => exact .inl ⟨rfl, found⟩
    | cons first others =>
        have split := found.split
        simp only [List.cons_append, List.cons.injEq] at split
        exact .inr ⟨others, by rw [split.1], split.2, found.word⟩
  · rintro (⟨rfl, found⟩ | ⟨others, rfl, found⟩)
    · exact found
    · exact found.cons char

/-- Two directives with the same text before them have the same word. -/
theorem DirectiveAt.behind_eq {source before behind other : List Char}
    (found : DirectiveAt source before behind) (again : DirectiveAt source before other) :
    other = behind := by
  have same := again.split.symm.trans found.split
  simpa using same

theorem directiveAt?_eq_some_iff {text word : List Char} :
    directiveAt? text = some word ↔
      ∃ behind, DirectiveAt text [] behind ∧ directiveWord behind = word := by
  constructor
  · intro found
    obtain ⟨behind, opened, others⟩ := Option.bind_eq_some_iff.1 found
    obtain ⟨⟨read, rest⟩, run, same⟩ := Option.bind_eq_some_iff.1 others
    cases same
    obtain ⟨nonempty, taken, -⟩ := run?_eq_some_iff.1 run
    have split : text = directiveMark ++ behind := after?_eq_some_iff.1 opened
    rw [← taken] at nonempty
    exact ⟨behind, ⟨split, takeWhile_ne_nil_iff.1 nonempty⟩, taken⟩
  · rintro ⟨behind, found, rfl⟩
    have run : word? behind = some (directiveWord behind, behind.dropWhile isWord) :=
      run?_eq_some_iff.2 ⟨takeWhile_ne_nil_iff.2 found.word, rfl, rfl⟩
    rw [directiveAt?, found.split, List.nil_append, after?_append]
    simp [run]

/-- The scan finds the words of all directives. -/
theorem mem_directives_iff {source word : List Char} :
    word ∈ directives source ↔
      ∃ before behind, DirectiveAt source before behind ∧ directiveWord behind = word := by
  induction source with
  | nil =>
      simp only [directives, List.not_mem_nil, false_iff]
      rintro ⟨before, behind, found, -⟩
      exact not_directiveAt_nil found
  | cons char rest ih =>
      rw [directives, List.mem_append, Option.mem_toList, directiveAt?_eq_some_iff, ih]
      constructor
      · rintro (⟨behind, found, same⟩ | ⟨before, behind, found, same⟩)
        · exact ⟨[], behind, found, same⟩
        · exact ⟨char :: before, behind, found.cons char, same⟩
      · rintro ⟨before, behind, found, same⟩
        rcases directiveAt_cons_iff.1 found with ⟨-, here⟩ | ⟨others, -, later⟩
        · exact .inl ⟨behind, here, same⟩
        · exact .inr ⟨others, behind, later, same⟩

/-- The scan finds nothing if there is no directive, and only then. -/
theorem directives_eq_nil_iff {source : List Char} :
    directives source = [] ↔ ∀ before behind, ¬ DirectiveAt source before behind := by
  rw [List.eq_nil_iff_forall_not_mem]
  constructor
  · intro none before behind found
    exact none _ (mem_directives_iff.2 ⟨before, behind, found, rfl⟩)
  · intro none word member
    obtain ⟨before, behind, found, -⟩ := mem_directives_iff.1 member
    exact none before behind found

/-- The first directive whose word is of some sort. -/
structure FirstDirective (accepts : List Char → Bool) (source before behind : List Char) : Prop
    extends DirectiveAt source before behind where
  accepted : accepts (directiveWord behind) = true
  earlier : ∀ others further, DirectiveAt source others further →
    others.length < before.length → accepts (directiveWord further) = false

/-- A first directive behind the first character is the first one there, if none
is accepted at the start. -/
theorem firstDirective_cons_iff {accepts : List Char → Bool} {char : Char}
    {rest before behind : List Char}
    (refused : ∀ further, DirectiveAt (char :: rest) [] further →
      accepts (directiveWord further) = false) :
    FirstDirective accepts (char :: rest) before behind ↔
      ∃ others, before = char :: others ∧ FirstDirective accepts rest others behind := by
  constructor
  · intro found
    rcases directiveAt_cons_iff.1 found.toDirectiveAt with ⟨-, here⟩ | ⟨others, rfl, later⟩
    · have accepted := found.accepted
      rw [refused behind here] at accepted
      contradiction
    · refine ⟨others, rfl, later, found.accepted, ?_⟩
      intro front further again shorter
      exact found.earlier (char :: front) further (again.cons char) (by simpa using shorter)
  · rintro ⟨others, rfl, found⟩
    refine ⟨found.toDirectiveAt.cons char, found.accepted, ?_⟩
    intro front further again shorter
    rcases directiveAt_cons_iff.1 again with ⟨-, here⟩ | ⟨front, rfl, later⟩
    · exact refused further here
    · exact found.earlier front further later (by simpa using shorter)

/-- Of the words of some sort, the scan finds that of the first directive
first. -/
theorem find?_directives_eq_some_iff {accepts : List Char → Bool} {source word : List Char} :
    (directives source).find? accepts = some word ↔
      ∃ before behind, FirstDirective accepts source before behind ∧
        directiveWord behind = word := by
  induction source with
  | nil =>
      simp only [directives, List.find?_nil, reduceCtorEq, false_iff]
      rintro ⟨before, behind, found, -⟩
      exact not_directiveAt_nil found.toDirectiveAt
  | cons char rest ih =>
      by_cases taken : ∃ behind, DirectiveAt (char :: rest) [] behind ∧
          accepts (directiveWord behind) = true
      · obtain ⟨behind, here, accepted⟩ := taken
        have opened := directiveAt?_eq_some_iff.2 ⟨behind, here, rfl⟩
        have first : FirstDirective accepts (char :: rest) [] behind :=
          ⟨here, accepted, by simp⟩
        rw [directives, opened, Option.toList_some, List.singleton_append,
          List.find?_cons_of_pos accepted, Option.some.injEq]
        constructor
        · intro same
          exact ⟨[], behind, first, same⟩
        · rintro ⟨before, further, found, rfl⟩
          cases before with
          | nil => rw [here.behind_eq found.toDirectiveAt]
          | cons other others =>
              have refused := found.earlier [] behind here (by simp)
              rw [accepted] at refused
              contradiction
      · have refused : ∀ further, DirectiveAt (char :: rest) [] further →
            accepts (directiveWord further) = false := by
          intro further here
          cases accepted : accepts (directiveWord further) with
          | false => rfl
          | true => exact absurd ⟨further, here, accepted⟩ taken
        have skipped : (directives (char :: rest)).find? accepts =
            (directives rest).find? accepts := by
          cases opened : directiveAt? (char :: rest) with
          | none => rw [directives, opened, Option.toList_none, List.nil_append]
          | some word =>
              obtain ⟨behind, here, rfl⟩ := directiveAt?_eq_some_iff.1 opened
              rw [directives, opened, Option.toList_some, List.singleton_append,
                List.find?_cons_of_neg (by simp [refused behind here])]
        rw [skipped, ih]
        constructor
        · rintro ⟨before, behind, found, same⟩
          exact ⟨char :: before, behind,
            (firstDirective_cons_iff refused).2 ⟨before, rfl, found⟩, same⟩
        · rintro ⟨before, behind, found, same⟩
          obtain ⟨others, -, found⟩ := (firstDirective_cons_iff refused).1 found
          exact ⟨others, behind, found, same⟩

/-- No directive begins where there is no `@`. -/
theorem directives_append_of_notMem {front : List Char} (plain : '@' ∉ front) (rest : List Char) :
    directives (front ++ rest) = directives rest := by
  induction front with
  | nil => rfl
  | cons char front ih =>
      simp only [List.mem_cons, not_or] at plain
      have unopened : directiveAt? (char :: (front ++ rest)) = none := by
        simp [directiveAt?, directiveMark, after?, Ne.symm plain.1]
      rw [List.cons_append, directives, unopened, Option.toList_none, List.nil_append, ih plain.2]

/-- Directives do not overlap: behind one of them the scan might as well go on
behind its word. -/
theorem directives_of_directiveAt {text behind : List Char} (found : DirectiveAt text [] behind) :
    directives text = directiveWord behind :: directives (behind.dropWhile isWord) := by
  have opened := directiveAt?_eq_some_iff.2 ⟨behind, found, rfl⟩
  have split : text = '@' :: (['s', 't', 'a', 'r', 't'] ++ behind) := found.split
  have word : '@' ∉ ['s', 't', 'a', 'r', 't'] ++ directiveWord behind := by
    rw [List.mem_append, not_or]
    refine ⟨by decide, fun member => ?_⟩
    have outside : isWord '@' = false := by decide
    rw [List.all_eq_true.1 List.all_takeWhile '@' member] at outside
    contradiction
  have skipped : directives (['s', 't', 'a', 'r', 't'] ++ behind) =
      directives (behind.dropWhile isWord) := by
    calc
      _ = directives ((['s', 't', 'a', 'r', 't'] ++ directiveWord behind) ++
            behind.dropWhile isWord) := by
          rw [List.append_assoc, directiveWord, List.takeWhile_append_dropWhile]
      _ = _ := directives_append_of_notMem word _
  rw [split] at opened ⊢
  rw [directives, opened, Option.toList_some, List.singleton_append, skipped]

/-! ## Announcements -/

/-- A keyword in a source that is not part of a longer word on its left. -/
structure KeywordAt (keyword source before behind : List Char) : Prop where
  split : source = before ++ (keyword ++ behind)
  apart : ∀ last ∈ before.getLast?, isWord last = false

/-- A gap with a word behind it stands at the start of a text. -/
structure GapBeforeWord (gap text : List Char) : Prop where
  blank : ∀ char ∈ gap, isBlank char = true
  word : ∃ first rest, text = gap ++ first :: rest ∧ isWord first = true

/-- A keyword announces something in a source: blanks, at least one, and then a
word character stand behind it. -/
def Announced (keyword source : List Char) : Prop :=
  ∃ before behind gap, KeywordAt keyword source before behind ∧ gap ≠ [] ∧ GapBeforeWord gap behind

/-- What is announced in a text is announced in a longer one, unless a word
character in front of the text makes another word of the keyword. -/
theorem Announced.extend {keyword text front : List Char} (announced : Announced keyword text)
    (apart : ∀ last ∈ front.getLast?, isWord last = false) (back : List Char) :
    Announced keyword (front ++ (text ++ back)) := by
  obtain ⟨before, behind, gap, ⟨rfl, outside⟩, nonempty, blank, first, rest, rfl, word⟩ := announced
  refine ⟨front ++ before, gap ++ first :: (rest ++ back), gap, ⟨by simp, ?_⟩, nonempty, blank,
    first, rest ++ back, rfl, word⟩
  rw [List.getLast?_append]
  cases ends : before.getLast? with
  | none => simpa using apart
  | some last => simpa using outside last ends

/-- A word in front of a gap and another word announces that. -/
theorem announced_of_leadingWord? {text keyword rest : List Char}
    (read : leadingWord? text = some (keyword, rest))
    (word : ∃ first ∈ rest.head?, isWord first = true) : Announced keyword text := by
  obtain ⟨gap, split, -, nonempty, blank⟩ := exists_gap_of_leadingWord? read
  obtain ⟨first, starts, inside⟩ := word
  obtain ⟨more, shape⟩ := List.head?_eq_some_iff.1 starts
  exact ⟨[], gap ++ rest, gap, ⟨split, by simp⟩, nonempty, blank, first, more, by rw [shape],
    inside⟩

theorem announcesAt_iff {keyword text : List Char} :
    announcesAt keyword text = true ↔
      ∃ behind gap, text = keyword ++ behind ∧ gap ≠ [] ∧ GapBeforeWord gap behind := by
  constructor
  · intro found
    rw [announcesAt] at found
    split at found
    · next first rest read =>
        obtain ⟨behind, opened, skipped⟩ := Option.bind_eq_some_iff.1 read
        obtain ⟨gap, nonempty, blank, -, split⟩ := gap?_eq_some_iff.1 skipped
        exact ⟨behind, gap, after?_eq_some_iff.1 opened, nonempty, blank, first, rest, split, found⟩
    · contradiction
  · rintro ⟨behind, gap, rfl, nonempty, blank, first, rest, rfl, word⟩
    have skipped : gap? (gap ++ first :: rest) = some (first :: rest) := by
      refine gap?_eq_some_iff.2 ⟨gap, nonempty, blank, ?_, rfl⟩
      rintro char ⟨⟩
      exact isBlank_eq_false_of_isWord word
    rw [announcesAt, after?_append, Option.bind_some, skipped]
    exact word

/-- Whether a word character stands directly in front of what follows a text,
where `inWord` tells it for the empty text. -/
def endsInWord (inWord : Bool) (text : List Char) : Bool :=
  (text.getLast?.map isWord).getD inWord

theorem endsInWord_cons (inWord : Bool) (char : Char) (text : List Char) :
    endsInWord inWord (char :: text) = endsInWord (isWord char) text := by
  rw [endsInWord, endsInWord, List.getLast?_cons]
  cases text.getLast? with
  | none => rfl
  | some last => rfl

theorem announces_iff {keyword : List Char} (nonempty : keyword ≠ []) {inWord : Bool}
    {text : List Char} :
    announces keyword inWord text = true ↔
      ∃ before behind gap, text = before ++ (keyword ++ behind) ∧
        endsInWord inWord before = false ∧ gap ≠ [] ∧ GapBeforeWord gap behind := by
  induction text generalizing inWord with
  | nil =>
      simp only [announces, Bool.false_eq_true, false_iff]
      rintro ⟨before, behind, gap, split, -⟩
      simp [nonempty] at split
  | cons char text ih =>
      rw [announces, Bool.or_eq_true, Bool.and_eq_true, Bool.not_eq_true', announcesAt_iff, ih]
      constructor
      · rintro (⟨outside, behind, gap, split, found⟩ | ⟨before, behind, gap, rfl, apart, found⟩)
        · exact ⟨[], behind, gap, split, outside, found⟩
        · exact ⟨char :: before, behind, gap, rfl, by rwa [endsInWord_cons], found⟩
      · rintro ⟨before, behind, gap, split, apart, found⟩
        cases before with
        | nil => exact .inl ⟨apart, behind, gap, split, found⟩
        | cons first before =>
            simp only [List.cons_append, List.cons.injEq] at split
            rw [endsInWord_cons, ← split.1] at apart
            exact .inr ⟨before, behind, gap, split.2, apart, found⟩

/-- The scan for a keyword finds whether it announces something. -/
theorem announces_iff_announced {keyword : List Char} (nonempty : keyword ≠ [])
    {text : List Char} : announces keyword false text = true ↔ Announced keyword text := by
  have apart (before : List Char) : endsInWord false before = false ↔
      ∀ last ∈ before.getLast?, isWord last = false := by
    cases ends : before.getLast? with
    | none => simp [endsInWord, ends]
    | some last => simp [endsInWord, ends]
  rw [announces_iff nonempty]
  constructor
  · rintro ⟨before, behind, gap, split, outside, found⟩
    exact ⟨before, behind, gap, ⟨split, (apart before).1 outside⟩, found⟩
  · rintro ⟨before, behind, gap, at_, found⟩
    exact ⟨before, behind, gap, at_.split, (apart before).2 at_.apart, found⟩

/-! ## Arrows -/

/-- A text has a dash with a further dash or a head directly behind it. -/
def ContainsArrow (source : List Char) : Prop :=
  ['-', '-'] <:+: source ∨ ['-', '>'] <:+: source

theorem arrow_cons_iff (second char : Char) (rest : List Char) :
    ['-', second] <:+: char :: rest ↔
      (char = '-' ∧ rest.head? = some second) ∨ ['-', second] <:+: rest := by
  rw [List.infix_cons_iff]
  cases rest with
  | nil => simp
  | cons other rest => simp [List.cons_prefix_cons, eq_comm]

/-- The scan for arrows finds whether there is one. -/
theorem hasArrow_iff {text : List Char} : hasArrow text = true ↔ ContainsArrow text := by
  unfold ContainsArrow
  fun_induction hasArrow text with
  | case1 char rest ih =>
      rw [Bool.or_eq_true, Bool.or_eq_true, beq_iff_eq, beq_iff_eq, ih,
        arrow_cons_iff '-' '-' (char :: rest), arrow_cons_iff '>' '-' (char :: rest)]
      simp only [List.head?_cons, Option.some.injEq, true_and]
      exact or_or_or_comm
  | case2 char rest other ih =>
      have noArrow (second : Char) : ¬ (char = '-' ∧ rest.head? = some second) := by
        rintro ⟨dash, starts⟩
        obtain ⟨more, same⟩ := List.head?_eq_some_iff.1 starts
        exact other second more dash same
      simp only [ih, arrow_cons_iff, noArrow, false_or]
  | case3 => simp

end DiagramGraph.Detection
