import DiagramGraph.Entry.Declaration
import DiagramGraph.Proofs.Pattern.Basic
import DiagramGraph.Proofs.Text.Part

/-!
# Parts of lines as patterns

Words, gaps, names, aliases and labels are described by patterns, and each of them is
read by a reader that does the same.
-/

namespace DiagramGraph.Pattern

open DiagramGraph.Text

/-! ## Small patterns -/

/-- A certain character. -/
def mark (char : Char) : Pattern :=
  one (· == char)

/-- A certain text. -/
def literal (text : List Char) : Pattern :=
  inOrder (text.map mark)

/-- At least one character of a class. -/
def run (belongs : Char → Bool) : Pattern :=
  inOrder [one belongs, many belongs]

/-- A word. -/
def word : Pattern :=
  run isWord

/-- At least one blank. -/
def gap : Pattern :=
  run isBlank

/-- Any number of blanks. -/
def blanks : Pattern :=
  many isBlank

/-! ## What is apart -/

section Apart

variable {pattern : Pattern} {patterns : List Pattern} {follow : Char → Bool}

theorem apart_cons (solid : pattern.nullable = false)
    (separate : ∀ char, follow char = true → pattern.starts char = false) :
    (inOrder (pattern :: patterns)).Apart follow where
  solid := by simp [inOrder, nullable, solid]
  separate := by
    intro char member
    simp [inOrder, starts, solid, separate char member]

theorem Apart.cons (apart : (inOrder patterns).Apart follow)
    (separate : ∀ char, follow char = true → pattern.starts char = false) :
    (inOrder (pattern :: patterns)).Apart follow where
  solid := by simp [inOrder, nullable, apart.solid]
  separate := by
    intro char member
    simp [inOrder, starts, separate char member, apart.separate char member]

/-- A pattern is apart from a class that has none of the characters with which it can
begin. -/
theorem apart_of_starts {firsts : List Char} (solid : pattern.nullable = false)
    (begins : ∀ char, pattern.starts char = true → char ∈ firsts)
    (outside : firsts.any follow = false) : pattern.Apart follow where
  solid := solid
  separate := by
    intro char member
    rw [← Bool.not_eq_true]
    exact fun starts => List.any_eq_false.1 outside char (begins char starts) member

/-- A certain character is apart from the classes without it. -/
theorem separate_mark {mark : Char} (outside : follow mark = false) :
    ∀ char, follow char = true → (char == mark) = false := by
  intro char member
  rw [beq_eq_false_iff_ne]
  rintro rfl
  rw [outside] at member
  contradiction

theorem apart_mark {char : Char} (outside : follow char = false) :
    (inOrder (mark char :: patterns)).Apart follow :=
  apart_cons rfl (separate_mark outside)

theorem apart_literal {char : Char} {text : List Char} (outside : follow char = false) :
    (inOrder (literal (char :: text) :: patterns)).Apart follow :=
  apart_cons rfl fun other member => by
    simp [literal, inOrder, mark, starts, nullable, separate_mark outside other member]

theorem apart_run {belongs : Char → Bool}
    (separate : ∀ char, follow char = true → belongs char = false) :
    (inOrder (run belongs :: patterns)).Apart follow :=
  apart_cons rfl fun char member => by
    simp [run, inOrder, starts, nullable, separate char member]

theorem apart_group (number : Nat) (apart : (inOrder (pattern :: patterns)).Apart follow) :
    (inOrder (group number pattern :: patterns)).Apart follow :=
  ⟨apart.solid, apart.separate⟩

end Apart

/-! ## Characters and texts -/

section Small

variable {α : Type} {next : Captures → List Char → Option α} {text : List Char}
  {patterns : List Pattern} {belongs : Char → Bool}

theorem first_mark (char : Char) :
    (mark char).first next text = (after? [char] text).bind (next []) := by
  cases text with
  | nil => rfl
  | cons other rest => by_cases same : other = char <;> simp [mark, first_one_cons, after?, same]

theorem first_mark_cons (char : Char) :
    (inOrder (mark char :: patterns)).first next text =
      (after? [char] text).bind ((inOrder patterns).first next) := by
  rw [first_inOrder_cons, first_mark]
  rfl

theorem after?_cons (char : Char) (opening text : List Char) :
    after? (char :: opening) text = (after? [char] text).bind (after? opening) := by
  cases text with
  | nil => rfl
  | cons other rest => by_cases same : other = char <;> simp [after?, same]

theorem suffix_of_after? {opening text rest : List Char}
    (opened : after? opening text = some rest) :
    rest <:+ text :=
  ⟨opening, (after?_eq_some_iff.1 opened).symm⟩

theorem first_literal (opening : List Char) :
    (literal opening).first next text = (after? opening text).bind (next []) := by
  induction opening generalizing text with
  | nil => simp [literal, inOrder, first_nothing, after?]
  | cons char opening ih =>
      rw [after?_cons, literal, List.map_cons, first_mark_cons, Option.bind_assoc]
      exact Option.bind_congr fun rest _ => ih

theorem first_literal_cons (opening : List Char) :
    (inOrder (literal opening :: patterns)).first next text =
      (after? opening text).bind ((inOrder patterns).first next) := by
  rw [first_inOrder_cons, first_literal]
  rfl

/-! ## Runs -/

theorem run?_cons (belongs : Char → Bool) (char : Char) (rest : List Char) :
    run? belongs (char :: rest) =
      if belongs char then some (char :: rest.takeWhile belongs, rest.dropWhile belongs)
      else none := by
  cases inside : belongs char <;> simp [run?, inside]

theorem splits_run? (belongs : Char → Bool) : Splits (run? belongs) :=
  fun read => (append_of_run? read).symm

theorem first_run (goes : ∀ text : List Char,
    (many belongs).first next text = next [] (text.dropWhile belongs)) :
    (run belongs).first next text = (run? belongs text).bind fun read => next [] read.2 := by
  cases text with
  | nil => rfl
  | cons char rest =>
      rw [run, first_inOrder_cons, first_one_cons, run?_cons]
      split
      · rw [first_inOrder_singleton]
        exact goes rest
      · rfl

theorem reads_run (belongs : Char → Bool) : (run belongs).Reads belongs (run? belongs) where
  first_eq := fun _ refuses _ => first_run fun _ => first_many_of_refuses refuses
  splits := splits_run? belongs

theorem readsLast_run (belongs : Char → Bool) : (run belongs).ReadsLast (run? belongs) where
  at?_eq := by
    intro text
    rw [at?_eq_first, first_run fun _ => first_many_of_isSome rfl]
    cases run? belongs text <;> rfl
  splits := splits_run? belongs

theorem reads_word : word.Reads isWord word? :=
  reads_run isWord

theorem readsLast_word : word.ReadsLast word? :=
  readsLast_run isWord

/-- What is read as a run, even if it is empty. -/
def span (belongs : Char → Bool) : Reader := fun text =>
  some (text.takeWhile belongs, text.dropWhile belongs)

theorem splits_span (belongs : Char → Bool) : Splits (span belongs) := by
  intro text run rest read
  cases read
  exact List.takeWhile_append_dropWhile.symm

theorem reads_many (belongs : Char → Bool) : (many belongs).Reads belongs (span belongs) where
  first_eq := fun _ refuses _ => first_many_of_refuses refuses
  splits := splits_span belongs

theorem first_blanks_cons (apart : (inOrder patterns).Apart isBlank) :
    (inOrder (blanks :: patterns)).first next text =
      (inOrder patterns).first next (trimStart text) :=
  (reads_many isBlank).first_cons apart

theorem gap?_eq_run? (text : List Char) :
    gap? text = (run? isBlank text).map fun read => read.2 := by
  cases text with
  | nil => rfl
  | cons char rest =>
      rw [gap?, run?_cons]
      split <;> rfl

theorem first_gap_cons (apart : (inOrder patterns).Apart isBlank) :
    (inOrder (gap :: patterns)).first next text =
      (gap? text).bind ((inOrder patterns).first next) := by
  rw [gap?_eq_run?, Option.bind_map]
  exact (reads_run isBlank).first_cons apart

theorem leadingWord?_eq (text : List Char) :
    leadingWord? text =
      (word? text).bind fun read => (gap? read.2).map fun rest => (read.1, rest) := by
  rw [leadingWord?]
  cases word? text with
  | none => rfl
  | some read =>
      obtain ⟨run, rest⟩ := read
      cases skipped : gap? rest <;> simp [skipped]

/-- A word with a gap behind it. -/
theorem first_leadingWord_cons (number : Nat) (apart : (inOrder patterns).Apart isBlank) :
    (inOrder (group number word :: gap :: patterns)).first next text =
      (leadingWord? text).bind fun read =>
        (inOrder patterns).first (fun more => next ((number, read.1) :: more)) read.2 := by
  have separate : (inOrder (gap :: patterns)).Apart isWord :=
    apart_run fun _ => isBlank_eq_false_of_isWord
  rw [reads_word.first_group_cons number separate, leadingWord?_eq, Option.bind_assoc]
  refine Option.bind_congr fun read _ => ?_
  rw [first_gap_cons apart, Option.bind_map]
  rfl

end Small

/-! ## Keywords -/

instance (text : List Char) : Decidable (IsWordRun text) :=
  decidable_of_iff (text ≠ [] ∧ text.all isWord = true)
    ⟨fun run => ⟨run.1, List.all_eq_true.1 run.2⟩,
      fun run => ⟨run.nonempty, List.all_eq_true.2 run.word⟩⟩

/-- A word that goes on is another word. -/
theorem ne_of_prolonged {keyword rest : List Char} {char : Char} (run : IsWordRun keyword)
    (inside : isWord char = true) : ∀ read ∈ word? (keyword ++ char :: rest), read.1 ≠ keyword := by
  intro read reading
  obtain ⟨-, taken, -⟩ := run?_eq_some_iff.1 reading
  rw [List.takeWhile_append_of_pos run.word, List.takeWhile_cons_of_pos inside] at taken
  rw [← taken, Ne, List.append_right_eq_self]
  exact List.cons_ne_nil _ _

/-- A text behind which no word may go on stands at the start if it is the word that
stands there. -/
theorem bind_after? {α : Type} {keyword text : List Char} {goes : List Char → Option α}
    (run : IsWordRun keyword)
    (refuses : ∀ char rest, isWord char = true → goes (char :: rest) = none) :
    (after? keyword text).bind goes =
      (word? text).bind fun read => if read.1 = keyword then goes read.2 else none := by
  cases opened : after? keyword text with
  | none =>
      rw [Option.bind_none, eq_comm, Option.bind_eq_none_iff]
      intro read reading
      rw [if_neg]
      intro same
      rw [after?_eq_some_iff.2 (same ▸ splits_run? isWord reading)] at opened
      contradiction
  | some rest =>
      rw [after?_eq_some_iff] at opened
      rw [Option.bind_some, opened]
      by_cases prolonged : ∃ char ∈ rest.head?, isWord char = true
      · obtain ⟨char, starts, inside⟩ := prolonged
        obtain ⟨others, rfl⟩ := List.head?_eq_some_iff.1 starts
        rw [refuses char others inside, eq_comm, Option.bind_eq_none_iff]
        exact fun read reading => if_neg (ne_of_prolonged run inside read reading)
      · have ends : ∀ char ∈ rest.head?, isWord char = false := fun char starts =>
          Bool.eq_false_iff.2 fun inside => prolonged ⟨char, starts, inside⟩
        have read : word? (keyword ++ rest) = some (keyword, rest) :=
          run?_append run.nonempty run.word ends
        rw [read, Option.bind_some, if_pos rfl]

section Keywords

variable {α : Type} {next : Captures → List Char → Option α} {text keyword : List Char}
  {patterns : List Pattern}

/-- A keyword and a gap are a leading word. -/
theorem bind_after?_gap (run : IsWordRun keyword) (goes : List Char → Option α) :
    ((after? keyword text).bind fun rest => (gap? rest).bind goes) =
      (leadingWord? text).bind fun read => if read.1 = keyword then goes read.2 else none := by
  have refuses (char : Char) (rest : List Char) (inside : isWord char = true) :
      (gap? (char :: rest)).bind goes = none := by
    rw [gap?, if_neg (by simp [isBlank_eq_false_of_isWord inside])]
    rfl
  rw [bind_after? run refuses, leadingWord?_eq, Option.bind_assoc]
  refine Option.bind_congr fun read _ => ?_
  rw [Option.bind_map]
  split
  · next same => cases gap? read.2 <;> simp [same]
  · next other => cases gap? read.2 <;> simp [other]

theorem first_keyword (run : IsWordRun keyword) (refuses : Refuses isBlank next) :
    (inOrder [literal keyword, gap]).first next text =
      (leadingWord? text).bind fun read => if read.1 = keyword then next [] read.2 else none := by
  rw [first_literal_cons, ← bind_after?_gap run]
  refine Option.bind_congr fun rest _ => ?_
  rw [first_inOrder_singleton, gap?_eq_run?, Option.bind_map]
  exact (reads_run isBlank).first_eq next refuses rest

theorem first_keyword_cons (run : IsWordRun keyword) (apart : (inOrder patterns).Apart isBlank) :
    (inOrder (literal keyword :: gap :: patterns)).first next text =
      (leadingWord? text).bind fun read =>
        if read.1 = keyword then (inOrder patterns).first next read.2 else none := by
  rw [first_literal_cons, ← bind_after?_gap run]
  exact Option.bind_congr fun rest _ => first_gap_cons apart

/-- One of several words. -/
def oneOf (keyword : List Char) : List (List Char) → Pattern
  | [] => literal keyword
  | other :: others => either (literal keyword) (oneOf other others)

/-- The word at the start of a text, if it is one of certain words. -/
def wordAmong (keywords : List (List Char)) : Reader := fun text =>
  (word? text).bind fun read => if read.1 ∈ keywords then some read else none

theorem splits_wordAmong (keywords : List (List Char)) : Splits (wordAmong keywords) := by
  intro text run rest read
  obtain ⟨found, reading, read⟩ := Option.bind_eq_some_iff.1 read
  split at read
  · cases read
    exact splits_run? isWord reading
  · contradiction

theorem reads_oneOf {others : List (List Char)} (run : IsWordRun keyword)
    (runs : ∀ other ∈ others, IsWordRun other) :
    (oneOf keyword others).Reads isWord (wordAmong (keyword :: others)) where
  first_eq := by
    intro α next refuses text
    induction others generalizing keyword with
    | nil =>
        rw [oneOf, first_literal, bind_after? run (refuses []), wordAmong, Option.bind_assoc]
        refine Option.bind_congr fun read _ => ?_
        simp only [List.mem_singleton]
        split <;> rfl
    | cons other others ih =>
        obtain ⟨runOther, runs⟩ := List.forall_mem_cons.1 runs
        rw [oneOf, first_either, ih runOther runs, first_literal, bind_after? run (refuses []),
          wordAmong, wordAmong]
        cases word? text with
        | none => rfl
        | some read =>
            simp only [Option.bind_some, List.mem_cons]
            by_cases same : read.1 = keyword
            · -- A keyword that is listed twice is tried again, and to no avail.
              simp only [same, if_pos, true_or, Option.bind_some]
              cases goes : next [] read.2 <;> split <;> simp [goes]
            · simp [same]
  splits := splits_wordAmong _

end Keywords

/-! ## Up to a mark -/

/-- Whether a character is another one. -/
def isOther (mark char : Char) : Bool :=
  char != mark

theorem separate_isOther (mark : Char) :
    ∀ char, isOther mark char = true → (char == mark) = false := by
  intro char other
  simpa [isOther] using other

theorem upTo?_eq_span (mark : Char) (text : List Char) :
    upTo? mark text =
      (span (isOther mark) text).bind fun read =>
        (after? [mark] read.2).map fun rest => (read.1, rest) := by
  induction text with
  | nil => rfl
  | cons char rest ih =>
      by_cases same : char = mark
      · simp [upTo?, span, same, isOther, after?]
      · have other : isOther mark char = true := by simpa [isOther] using same
        rw [upTo?, if_neg same, ih]
        simp [span, other, Function.comp_def]

section UpTo

variable {α : Type} {next : Captures → List Char → Option α} {text : List Char}
  {patterns : List Pattern} {char : Char}

/-- Anything but a mark, and the mark. -/
theorem first_upTo_cons :
    (inOrder (many (isOther char) :: mark char :: patterns)).first next text =
      (upTo? char text).bind fun read => (inOrder patterns).first next read.2 := by
  have apart : (inOrder (mark char :: patterns)).Apart (isOther char) :=
    apart_cons rfl (separate_isOther char)
  rw [(reads_many _).first_cons apart, upTo?_eq_span, Option.bind_assoc]
  refine Option.bind_congr fun read _ => ?_
  rw [first_mark_cons, Option.bind_map]
  rfl

theorem first_group_upTo_cons (number : Nat) :
    (inOrder (group number (many (isOther char)) :: mark char :: patterns)).first next text =
      (upTo? char text).bind fun read =>
        (inOrder patterns).first (fun more => next ((number, read.1) :: more)) read.2 := by
  have apart : (inOrder (mark char :: patterns)).Apart (isOther char) :=
    apart_cons rfl (separate_isOther char)
  rw [(reads_many _).first_group_cons number apart, upTo?_eq_span, Option.bind_assoc]
  refine Option.bind_congr fun read _ => ?_
  rw [first_mark_cons, Option.bind_map]
  rfl

end UpTo

/-! ## Names -/

/-- A text in quotes that is not empty. -/
def quotedName : Pattern :=
  inOrder [mark '"', run (isOther '"'), mark '"']

/-- A name, in quotes or as a word. -/
def name : Pattern :=
  either quotedName word

/-- A name as it is written. -/
def writtenName? : Reader := fun text =>
  match quoted? text with
  | some (first :: more, rest) => some ('"' :: (first :: more ++ ['"']), rest)
  | _ => word? text

/-- A text without its quotes. -/
def unquote (text : List Char) : List Char :=
  text.filter (isOther '"')

theorem unquote_eq_self {text : List Char} (unquoted : '"' ∉ text) : unquote text = text := by
  rw [unquote, List.filter_eq_self]
  intro char member
  rw [isOther, bne_iff_ne]
  rintro rfl
  exact unquoted member

/-- The quotes of a name do not belong to it. -/
theorem name?_eq_writtenName? (text : List Char) :
    name? text = (writtenName? text).map fun read => (unquote read.1, read.2) := by
  have bare : word? text = (word? text).map fun read => (unquote read.1, read.2) := by
    cases reading : word? text with
    | none => rfl
    | some read =>
        rw [Option.map_some, unquote_eq_self (isWordRun_of_word? reading).isQuotable.unquoted]
  rw [name?, writtenName?]
  rcases closed : quoted? text with _ | ⟨_ | ⟨first, more⟩, rest⟩
  · exact bare
  · exact bare
  · have unquoted : '"' ∉ first :: more := by
      unfold quoted? at closed
      split at closed
      · exact (upTo?_eq closed).1
      · contradiction
    have outside : ¬isOther '"' '"' = true := by decide
    have inside : unquote ('"' :: (first :: more ++ ['"'])) = first :: more := by
      rw [unquote, List.filter_cons_of_neg outside, List.filter_append,
        List.filter_cons_of_neg outside, List.filter_nil, List.append_nil]
      exact unquote_eq_self unquoted
    simp only [Option.map_some, inside]

theorem splits_writtenName? : Splits writtenName? := by
  intro text run rest read
  unfold writtenName? at read
  split at read
  · next first more behind closed =>
      cases read
      unfold quoted? at closed
      split at closed
      · rw [(upTo?_eq closed).2]
        simp
      · contradiction
  · exact splits_run? isWord read

section Names

variable {α : Type} {next : Captures → List Char → Option α} {text : List Char}

theorem quoted?_eq (text : List Char) : quoted? text = (after? ['"'] text).bind (upTo? '"') := by
  unfold quoted?
  split
  · rfl
  · next other =>
      cases text with
      | nil => rfl
      | cons char rest =>
          have apart : char ≠ '"' := by
            rintro rfl
            exact other rest rfl
          simp [after?, apart]

theorem first_quotedName :
    quotedName.first next text =
      match quoted? text with
      | some (_ :: _, rest) => next [] rest
      | _ => none := by
  have apart : (inOrder [mark '"']).Apart (isOther '"') := apart_cons rfl (separate_isOther '"')
  rw [quotedName, first_mark_cons, quoted?_eq]
  cases after? ['"'] text with
  | none => rfl
  | some rest =>
      rw [Option.bind_some, Option.bind_some, (reads_run _).first_cons apart, upTo?_eq_span, run?,
        span]
      cases rest.takeWhile (isOther '"') with
      | nil => cases closed : after? ['"'] (rest.dropWhile (isOther '"')) <;> simp [closed]
      | cons first more =>
          simp only [Option.bind_some, first_mark_cons]
          cases after? ['"'] (rest.dropWhile (isOther '"')) with
          | none => rfl
          | some behind => exact first_inOrder_nil

theorem first_name (goes : word.first next text = (word? text).bind fun read => next [] read.2) :
    name.first next text = (writtenName? text).bind fun read => next [] read.2 := by
  rw [name, first_either, first_quotedName, goes, writtenName?]
  rcases closed : quoted? text with _ | ⟨_ | ⟨first, more⟩, rest⟩
  · rfl
  · rfl
  · have bare : word? text = none := by
      unfold quoted? at closed
      split at closed
      · exact run?_eq_none (by simp; decide)
      · contradiction
    rw [bare]
    cases goes : next [] rest <;> simp [goes]

end Names

theorem readsLast_name : name.ReadsLast writtenName? where
  at?_eq := by
    intro text
    rw [at?_eq_first, first_name]
    · cases writtenName? text <;> rfl
    · rw [← at?_eq_first, readsLast_word.at?_eq]
      cases word? text <;> rfl
  splits := splits_writtenName?

/-! ## Aliases -/

/-- The capture of a group that need not take part. -/
def captured (number : Nat) (text : Option (List Char)) : Captures :=
  (text.map fun chars => (number, chars)).toList

/-- The word `as` and a word, with gaps in front of both. -/
def aliasPart (number : Nat) : Pattern :=
  inOrder [gap, literal ['a', 's'], gap, group number word]

theorem isWordRun_as : IsWordRun ['a', 's'] := by
  decide

theorem at?_aliasPart (number : Nat) (text : List Char) :
    (aliasPart number).at? text =
      (aliasName? text).map fun read => ([(number, read.1)], read.2) := by
  have apartWord : (inOrder [group number word]).Apart isBlank :=
    apart_group number (apart_run fun _ => isWord_eq_false_of_isBlank)
  have apartKeyword : (inOrder [literal ['a', 's'], gap, group number word]).Apart isBlank :=
    apart_literal (by decide)
  have accepts : Accepts fun captures rest => some (captures, rest) := fun _ _ => rfl
  rw [at?_eq_first, aliasPart, first_gap_cons apartKeyword, aliasName?]
  cases gap? text with
  | none => rfl
  | some rest =>
      rw [Option.bind_some, first_keyword_cons isWordRun_as apartWord]
      simp only [first_inOrder_singleton, readsLast_word.first_group number accepts]
      cases leading : leadingWord? rest with
      | none => simp [leading]
      | some read =>
          obtain ⟨keyword, behind⟩ := read
          by_cases same : keyword = ['a', 's']
          · cases reading : word? behind <;> simp [leading, same, reading]
          · simp [leading, same]

/-- A name and its alias as they are written. -/
def writtenNamed? (text : List Char) : Option Declaration :=
  (writtenName? text).map fun read =>
    match aliasName? read.2 with
    | some (aliasName, rest) => ⟨read.1, some aliasName, rest⟩
    | none => ⟨read.1, none, read.2⟩

theorem named?_eq (text : List Char) :
    Declaration.named? text =
      (writtenNamed? text).map fun written => { written with name := unquote written.name } := by
  rw [Declaration.named?, namePart?, name?_eq_writtenName?, writtenNamed?]
  cases writtenName? text with
  | none => rfl
  | some read => cases introduced : aliasName? read.2 <;> simp [introduced]

/-- A name and its alias, in front of what may also be left out. -/
theorem first_named_cons {α : Type} {next : Captures → List Char → Option α} {text : List Char}
    {patterns : List Pattern} (number other : Nat) (total : (inOrder patterns).Total)
    (accepts : Accepts next) :
    (inOrder (group number name :: optional (aliasPart other) :: patterns)).first next text =
      (writtenNamed? text).bind fun written =>
        (inOrder patterns).first
          (fun more => next ((number, written.name) :: (captured other written.aliasName ++ more)))
          written.rest := by
  have further := total_cons (total_optional (aliasPart other)) total
  rw [readsLast_name.first_group_cons number further accepts, writtenNamed?, Option.bind_map]
  refine Option.bind_congr fun read _ => ?_
  have goes : Accepts fun more => next ((number, read.1) :: more) :=
    fun more rest => accepts ((number, read.1) :: more) rest
  rw [first_optional_cons total goes, at?_aliasPart]
  cases introduced : aliasName? read.2 <;> simp [introduced, captured]

/-! ## Texts at the end of a line -/

/-- A mark with blanks around it, and a text behind it that is not empty. -/
def closing (char : Char) (number : Nat) : Pattern :=
  inOrder [blanks, mark char, blanks, group number (run (isOther '\n'))]

/-- The text behind a mark. Blanks in front of it do not belong to it; but if there is
nothing else, the last of them stands for it. -/
def closingText? (char : Char) (text : List Char) : Option (List Char) :=
  (after? [char] (trimStart text)).bind fun rest =>
    if trimStart rest = [] then rest.getLast?.map fun last => [last] else some (trimStart rest)

theorem isBlank_of_trimStart_eq_nil {text : List Char} (empty : trimStart text = []) :
    ∀ char ∈ text, isBlank char = true := by
  have whole : text.takeWhile isBlank ++ trimStart text = text := List.takeWhile_append_dropWhile
  rw [empty, List.append_nil] at whole
  rw [← whole]
  exact fun char member => List.all_eq_true.1 List.all_takeWhile char member

theorem nonBlank?_tidy {text : List Char} (tidy : Tidy text) : nonBlank? text = some text := by
  rw [nonBlank?, trim_eq_self tidy]
  obtain ⟨first, more, rfl⟩ := List.exists_cons_of_ne_nil tidy.ne_nil
  rfl

theorem nonBlank?_trimStart (text : List Char) : nonBlank? (trimStart text) = nonBlank? text := by
  rw [nonBlank?, nonBlank?, trim, trim, trimStart_eq_self (head_trimStart text)]

/-- Nothing is left of the text behind a mark if it is blank all over. -/
theorem bind_closingText? (char : Char) (text : List Char) :
    (closingText? char text).bind nonBlank? =
      (after? [char] (trimStart text)).bind nonBlank? := by
  rw [closingText?, Option.bind_assoc]
  refine Option.bind_congr fun rest _ => ?_
  split
  · next empty =>
      have blank := isBlank_of_trimStart_eq_nil empty
      have nothing : nonBlank? rest = none := by rw [nonBlank?, trim, empty]; rfl
      rw [nothing, Option.bind_eq_none_iff]
      intro last member
      obtain ⟨char, ends, rfl⟩ := Option.map_eq_some_iff.1 member
      have alone : trim [char] = [] :=
        trim_eq_nil (by simpa using blank char (List.mem_of_getLast? ends))
      rw [nonBlank?, alone]
  · rw [Option.bind_some, nonBlank?_trimStart]

theorem label?_eq (text : List Char) : label? text = (closingText? ':' text).bind nonBlank? := by
  rw [bind_closingText?, label?]
  cases trimStart text with
  | nil => rfl
  | cons char rest =>
      by_cases colon : char = ':'
      · simp [after?, colon]
      · simp [after?, colon]

section Closing

variable {α : Type} {next : Captures → List Char → Option α} {text : List Char}

/-- On a single line a text reaches up to the end. -/
theorem run?_line (single : '\n' ∉ text) (nonempty : text ≠ []) :
    run? (isOther '\n') text = some (text, []) := by
  have inside : ∀ char ∈ text, isOther '\n' char = true := by
    intro char member
    rw [isOther, bne_iff_ne]
    rintro rfl
    exact single member
  have read : run? (isOther '\n') (text ++ []) = some (text, []) :=
    run?_append nonempty inside (by simp)
  rwa [List.append_nil] at read

/-- Among blanks alone the last one is left over. -/
theorem first_many_of_blank {belongs : Char → Bool} (inside : ∀ char ∈ text, belongs char = true)
    (none : next [] [] = none) (goes : ∀ last ∈ text, (next [] [last]).isSome) :
    (many belongs).first next text = text.getLast?.bind fun last => next [] [last] := by
  induction text with
  | nil => simp [first_many_nil, none]
  | cons char rest ih =>
      obtain ⟨here, others⟩ := List.forall_mem_cons.1 inside
      have goesLater := (List.forall_mem_cons.1 goes).2
      rw [first_many_cons, if_pos here, ih others goesLater]
      cases rest with
      | nil => rfl
      | cons second rest =>
          have nonempty : second :: rest ≠ [] := List.cons_ne_nil second rest
          have ends := List.getLast?_eq_some_getLast nonempty
          obtain ⟨made, found⟩ :=
            Option.isSome_iff_exists.1 (goesLater _ (List.getLast_mem nonempty))
          rw [List.getLast?_cons_cons, ends, Option.bind_some, found]
          rfl

/-- A character of a single line is a text. -/
theorem run?_last {last : Char} (single : '\n' ∉ text) (member : last ∈ text) :
    run? (isOther '\n') [last] = some ([last], []) := by
  apply run?_line _ (List.cons_ne_nil last [])
  rw [List.mem_singleton]
  rintro rfl
  exact single member

theorem first_closingText (captures : Captures) (number : Nat) :
    (inOrder [group number (run (isOther '\n'))]).first
        (fun more _ => some (captures ++ more)) text =
      (run? (isOther '\n') text).map fun read => captures ++ [(number, read.1)] := by
  rw [first_inOrder_singleton, (readsLast_run _).first_group number fun _ _ => rfl]
  cases run? (isOther '\n') text <;> rfl

/-- On a single line the text behind a mark is captured. -/
theorem captures?_closing {char : Char} (visible : isBlank char = false) (number : Nat)
    (single : '\n' ∉ text) :
    (closing char number).captures? text =
      (closingText? char text).map fun found => [(number, found)] := by
  have apart : (inOrder [mark char, blanks, group number (run (isOther '\n'))]).Apart isBlank :=
    apart_mark visible
  rw [captures?_eq_first, closing, first_blanks_cons apart, first_mark_cons, closingText?,
    Option.map_bind]
  refine Option.bind_congr fun rest opened => ?_
  have singleRest : '\n' ∉ rest := by
    have suffix := (suffix_of_after? opened).trans (suffix_of_trimStart text)
    exact single_of_suffix suffix single
  rw [first_inOrder_cons, Function.comp_apply]
  split
  · next empty =>
      rw [blanks, first_many_of_blank (isBlank_of_trimStart_eq_nil empty)]
      · cases ends : rest.getLast? with
        | none => rfl
        | some last =>
            rw [Option.bind_some, first_closingText,
              run?_last singleRest (List.mem_of_getLast? ends)]
            rfl
      · rw [first_closingText]
        rfl
      · intro last member
        rw [first_closingText, run?_last singleRest member]
        rfl
  · next nonempty =>
      have line := run?_line (single_of_suffix (suffix_of_trimStart rest) singleRest) nonempty
      rw [blanks, first_many_of_isSome] <;> rw [← trimStart, first_closingText, line] <;> rfl

theorem first_closing_last {char : Char} (visible : isBlank char = false) (number : Nat)
    (single : '\n' ∉ text) (made : Captures → α) :
    (inOrder [optional (closing char number)]).first (fun captures _ => some (made captures)) text =
      some (made (captured number (closingText? char text))) := by
  rw [first_optional_last, captures?_closing visible number single]
  cases closingText? char text <;> rfl

end Closing

end DiagramGraph.Pattern
