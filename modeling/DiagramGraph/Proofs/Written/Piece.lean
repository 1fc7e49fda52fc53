import DiagramGraph.Entry.Declaration
import DiagramGraph.Proofs.Text.Tidy

/-!
# Pieces of written lines

A line is written as a row of tidy pieces with a blank in front of each but the
first. The pieces that all kinds of diagrams have in common are words, names,
aliases and free texts; each of them is read back from the front of a line.
-/

namespace DiagramGraph.Written

open DiagramGraph.Text

/-! ## Rows of pieces -/

/-- Pieces with a blank in front of each. -/
def spaced (pieces : List (List Char)) : List Char :=
  pieces.flatMap (' ' :: ·)

@[simp]
theorem spaced_nil : spaced [] = [] :=
  rfl

theorem spaced_cons (piece : List Char) (pieces : List (List Char)) :
    spaced (piece :: pieces) = ' ' :: (piece ++ spaced pieces) :=
  rfl

theorem spaced_append (front back : List (List Char)) :
    spaced (front ++ back) = spaced front ++ spaced back :=
  List.flatMap_append

/-- A piece ends where the next one is set apart. -/
theorem head_spaced (pieces : List (List Char)) : ∀ char ∈ (spaced pieces).head?, char = ' ' := by
  cases pieces with
  | nil => simp
  | cons piece pieces => simp [spaced_cons]

theorem isBlank_head_spaced (pieces : List (List Char)) :
    ∀ char ∈ (spaced pieces).head?, isBlank char = true := by
  intro char member
  rw [head_spaced pieces char member]
  decide

theorem tidy_spaced {first : List Char} {pieces : List (List Char)} (tidy : Tidy first)
    (each : ∀ piece ∈ pieces, Tidy piece) : Tidy (first ++ spaced pieces) := by
  induction pieces generalizing first with
  | nil => simpa using tidy
  | cons piece pieces ih =>
      have rest := ih (each piece (by simp)) fun other member => each other (by simp [member])
      have joined : Tidy (first ++ ([' '] ++ (piece ++ spaced pieces))) :=
        tidy.join rest (by decide)
      exact joined

/-! ## Words -/

/-- A word. -/
structure Word where
  text : List Char
  nonempty : text ≠ []
  word : ∀ char ∈ text, isWord char = true

theorem Word.tidy (word : Word) : Tidy word.text :=
  tidy_of_forall word.nonempty fun char member => isBlank_eq_false_of_isWord (word.word char member)

/-- No word holds a character that is not of a word. -/
theorem Word.notMem (word : Word) {char : Char} (other : isWord char = false) :
    char ∉ word.text := by
  intro member
  rw [word.word char member] at other
  contradiction

theorem isWord_head_spaced (pieces : List (List Char)) :
    ∀ char ∈ (spaced pieces).head?, isWord char = false := by
  intro char member
  rw [head_spaced pieces char member]
  decide

/-- A word is read up to what cannot continue it. -/
theorem Word.word?_append (word : Word) {rest : List Char}
    (stop : ∀ char ∈ rest.head?, isWord char = false) :
    word? (word.text ++ rest) = some (word.text, rest) :=
  run?_append word.nonempty word.word stop

theorem Word.word?_spaced (word : Word) (pieces : List (List Char)) :
    word? (word.text ++ spaced pieces) = some (word.text, spaced pieces) :=
  word.word?_append (isWord_head_spaced pieces)

/-- A gap is skipped. -/
theorem gap?_behind {rest : List Char} (visible : ∀ char ∈ rest.head?, isBlank char = false) :
    gap? (' ' :: rest) = some rest := by
  rw [gap?, if_pos (by decide), trimStart_eq_self visible]

/-- The gap in front of a piece is skipped. -/
theorem gap?_spaced {piece : List Char} (tidy : Tidy piece) (pieces : List (List Char)) :
    gap? (spaced (piece :: pieces)) = some (piece ++ spaced pieces) :=
  gap?_behind (tidy.head_append (spaced pieces))

theorem trimStart_behind {rest : List Char} (visible : ∀ char ∈ rest.head?, isBlank char = false) :
    trimStart (' ' :: rest) = rest := by
  have trimmed : trimStart ([' '] ++ rest) = rest :=
    trimStart_append (List.all_eq_true.1 (by decide)) visible
  exact trimmed

theorem trimStart_spaced {piece : List Char} (tidy : Tidy piece) (pieces : List (List Char)) :
    trimStart (spaced (piece :: pieces)) = piece ++ spaced pieces :=
  trimStart_behind (tidy.head_append (spaced pieces))

/-- A gap of any blanks is skipped behind a word. -/
theorem Word.leadingWord?_gap (word : Word) {gap rest : List Char} (nonempty : gap ≠ [])
    (blank : ∀ char ∈ gap, isBlank char = true)
    (visible : ∀ char ∈ rest.head?, isBlank char = false) :
    leadingWord? (word.text ++ (gap ++ rest)) = some (word.text, rest) := by
  have skipped : gap? (gap ++ rest) = some rest :=
    gap?_eq_some_iff.2 ⟨gap, nonempty, blank, visible, rfl⟩
  have stop : ∀ char ∈ (gap ++ rest).head?, isWord char = false := by
    intro char starts
    rcases List.exists_cons_of_ne_nil nonempty with ⟨first, more, rfl⟩
    cases starts
    exact isWord_eq_false_of_isBlank (blank char List.mem_cons_self)
  simp [leadingWord?, word.word?_append stop, skipped]

theorem Word.leadingWord?_behind (word : Word) {rest : List Char}
    (visible : ∀ char ∈ rest.head?, isBlank char = false) :
    leadingWord? (word.text ++ (' ' :: rest)) = some (word.text, rest) :=
  word.leadingWord?_gap (List.cons_ne_nil ' ' []) (List.all_eq_true.1 (by decide)) visible

theorem Word.leadingWord?_spaced (word : Word) {piece : List Char} (tidy : Tidy piece)
    (pieces : List (List Char)) :
    leadingWord? (word.text ++ spaced (piece :: pieces)) =
      some (word.text, piece ++ spaced pieces) :=
  word.leadingWord?_behind (tidy.head_append (spaced pieces))

/-- What can be read from the word at the front is the first that is found. -/
theorem Word.firstAtWord_append {α : Type} (word : Word) {reader : List Char → Option α}
    {rest : List Char} {found : α} (read : reader (word.text ++ rest) = some found) :
    firstAtWord reader false (word.text ++ rest) = some found := by
  rcases List.exists_cons_of_ne_nil word.nonempty with ⟨first, more, shape⟩
  rw [shape, List.cons_append] at read ⊢
  exact firstAtWord_of_read read

/-- A word with nothing behind it does not lead a line. -/
theorem Word.leadingWord?_alone (word : Word) {rest : List Char}
    (stop : ∀ char ∈ rest.head?, isWord char = false)
    (noGap : ∀ char ∈ rest.head?, isBlank char = false) :
    leadingWord? (word.text ++ rest) = none := by
  have gap : gap? rest = none := by
    cases rest with
    | nil => rfl
    | cons char rest => simp [gap?, noGap char rfl]
  simp [leadingWord?, word.word?_append stop, gap]

/-- A line that does not begin with a word character has no leading word. -/
theorem leadingWord?_eq_none {text : List Char}
    (stop : ∀ char ∈ text.head?, isWord char = false) : leadingWord? text = none := by
  have word : word? text = none := run?_eq_none stop
  simp [leadingWord?, word]

/-- A leading word begins where the line does. -/
theorem head?_of_leadingWord? {text word rest : List Char}
    (read : leadingWord? text = some (word, rest)) : word.head? = text.head? := by
  obtain ⟨found, first, others⟩ := Option.bind_eq_some_iff.1 read
  obtain ⟨behind, -, same⟩ := Option.bind_eq_some_iff.1 others
  cases same
  exact head?_of_run? first

/-! ## Texts between marks -/

/-- A text is read up to the first mark behind it. -/
theorem upTo?_append {mark : Char} {inner : List Char} (plain : mark ∉ inner)
    (rest : List Char) : upTo? mark (inner ++ mark :: rest) = some (inner, rest) := by
  induction inner with
  | nil => simp [upTo?]
  | cons char inner ih =>
      simp only [List.mem_cons, not_or] at plain
      simp [upTo?, Ne.symm plain.1, ih plain.2]

/-- A text that can be written in double quotes. -/
structure Quote where
  text : List Char
  nonempty : text ≠ []
  plain : '"' ∉ text
  single : '\n' ∉ text

namespace Quote

/-- The text with its quotes. -/
def written (quote : Quote) : List Char :=
  '"' :: (quote.text ++ ['"'])

theorem tidy (quote : Quote) : Tidy quote.written :=
  tidy_enclosed (by decide) (by decide) quote.single

theorem upTo?_written (quote : Quote) (rest : List Char) :
    upTo? '"' (quote.text ++ ['"'] ++ rest) = some (quote.text, rest) := by
  rw [List.append_assoc]
  exact upTo?_append quote.plain rest

theorem quoted?_append (quote : Quote) (rest : List Char) :
    quoted? (quote.written ++ rest) = some (quote.text, rest) :=
  quote.upTo?_written rest

end Quote

/-! ## Names -/

/-- A declared name, written as a word or in quotes. -/
inductive Name where
  | bare (word : Word)
  | quoted (quote : Quote)

namespace Name

/-- The name as it is written. -/
def written : Name → List Char
  | bare word => word.text
  | quoted quote => quote.written

/-- The name without quotes. -/
def text : Name → List Char
  | bare word => word.text
  | quoted quote => quote.text

theorem tidy : ∀ name : Name, Tidy name.written
  | bare word => word.tidy
  | quoted quote => quote.tidy

/-- A name is read back without its quotes. -/
theorem name?_append (name : Name) {rest : List Char}
    (stop : ∀ char ∈ rest.head?, isWord char = false) :
    name? (name.written ++ rest) = some (name.text, rest) := by
  cases name with
  | bare word =>
      obtain ⟨first, more, shape⟩ := List.exists_cons_of_ne_nil word.nonempty
      have unquoted : quoted? (word.text ++ rest) = none := by
        apply quoted?_eq_none
        rw [shape]
        rintro char ⟨⟩ rfl
        have quoteOutside : isWord '"' = false := by decide
        exact word.notMem quoteOutside (by simp [shape])
      rw [name?, written, unquoted]
      exact word.word?_append stop
  | quoted quote =>
      obtain ⟨first, more, shape⟩ := List.exists_cons_of_ne_nil quote.nonempty
      rw [name?, written, quote.quoted?_append, shape, text, shape]

end Name

/-- The pieces that introduce an alias, if there is one. -/
def aliasPieces : Option Word → List (List Char)
  | none => []
  | some word => [['a', 's'], word.text]

/-- The word that introduces an alias. -/
def introducing : Word :=
  ⟨['a', 's'], by decide, List.all_eq_true.1 (by decide)⟩

theorem tidy_aliasPieces {aliasWord : Option Word} :
    ∀ piece ∈ aliasPieces aliasWord, Tidy piece := by
  cases aliasWord with
  | none => nofun
  | some word =>
      simp only [aliasPieces, List.forall_mem_cons]
      exact ⟨introducing.tidy, word.tidy, nofun⟩

/-- Pieces that cannot be taken for the introduction of an alias. -/
def Unrelated (pieces : List (List Char)) : Prop :=
  ∀ piece ∈ pieces.head?, Tidy piece ∧ ∀ char ∈ piece.head?, isWord char = false

theorem aliasName?_append (word : Word) {rest : List Char}
    (stop : ∀ char ∈ rest.head?, isWord char = false) :
    aliasName? (spaced (aliasPieces (some word)) ++ rest) = some (word.text, rest) := by
  have shape : spaced (aliasPieces (some word)) ++ rest =
      ' ' :: (introducing.text ++ (' ' :: (word.text ++ rest))) := by
    simp [aliasPieces, introducing, spaced_cons]
  have leading := introducing.leadingWord?_behind (word.tidy.head_append rest)
  rw [aliasName?, shape, gap?_behind (introducing.tidy.head_append _)]
  simp [leading, word.word?_append stop]
  rfl

theorem aliasName?_eq_none {pieces : List (List Char)} (unrelated : Unrelated pieces) :
    aliasName? (spaced pieces) = none := by
  cases pieces with
  | nil => rfl
  | cons piece pieces =>
      obtain ⟨tidy, other⟩ := unrelated piece rfl
      have noWord : leadingWord? (piece ++ spaced pieces) = none := by
        apply leadingWord?_eq_none
        obtain ⟨first, more, rfl⟩ := List.exists_cons_of_ne_nil tidy.ne_nil
        exact other
      simp [aliasName?, gap?_spaced tidy, noWord]

/-- A name with its alias is read back, whatever follows that is no alias. -/
theorem named?_append (name : Name) (aliasWord : Option Word) {rest : List Char}
    (stop : ∀ char ∈ rest.head?, isWord char = false) (noAlias : aliasName? rest = none) :
    Declaration.named? (name.written ++ (spaced (aliasPieces aliasWord) ++ rest)) =
      some ⟨name.text, aliasWord.map Word.text, rest⟩ := by
  cases aliasWord with
  | none =>
      simp [Declaration.named?, namePart?, aliasPieces, name.name?_append stop, noAlias]
  | some word =>
      have behind : ∀ char ∈ (spaced (aliasPieces (some word)) ++ rest).head?,
          isWord char = false := by
        rintro char ⟨⟩
        decide
      simp [Declaration.named?, namePart?, name.name?_append behind, aliasName?_append word stop]

theorem named?_spaced (name : Name) (aliasWord : Option Word) {pieces : List (List Char)}
    (unrelated : Unrelated pieces) :
    Declaration.named? (name.written ++ spaced (aliasPieces aliasWord ++ pieces)) =
      some ⟨name.text, aliasWord.map Word.text, spaced pieces⟩ := by
  rw [spaced_append]
  exact named?_append name aliasWord (isWord_head_spaced pieces) (aliasName?_eq_none unrelated)

theorem Declaration.read?_of_leadingWord? {line word keyword rest : List Char}
    (read : leadingWord? line = some (word, rest)) :
    Declaration.read? keyword line = if word = keyword then Declaration.named? rest else none := by
  rw [Declaration.read?, read]
  rfl

/-- A line without leading word declares nothing. -/
theorem Declaration.read?_eq_none {line : List Char} (noWord : leadingWord? line = none)
    (keyword : List Char) : Declaration.read? keyword line = none := by
  rw [Declaration.read?, noWord]
  rfl

/-! ## Free texts -/

/-- A text on one line, without blanks at its ends and without some excluded
marks. -/
structure Phrase (excluded : List Char) where
  text : List Char
  tidy : Tidy text
  plain : ∀ mark ∈ excluded, mark ∉ text

/-- A phrase behind a blank is read as it is. -/
theorem Phrase.nonBlank?_behind {excluded : List Char} (phrase : Phrase excluded) :
    nonBlank? (' ' :: phrase.text) = some phrase.text := by
  have read : nonBlank? ([' '] ++ (phrase.text ++ [])) = some phrase.text :=
    nonBlank?_padded phrase.tidy (List.all_eq_true.1 (by decide)) (by simp)
  rwa [List.append_nil] at read

/-! ## Colons and labels -/

/-- A colon, set apart from what stands in front of it or not. -/
def colon (apart : Bool) : List Char :=
  if apart then [' ', ':'] else [':']

theorem head_colon (apart : Bool) (rest : List Char) :
    ∀ char ∈ (colon apart ++ rest).head?, isWord char = false := by
  cases apart with
  | true =>
      rintro char ⟨⟩
      decide
  | false =>
      rintro char ⟨⟩
      decide

theorem single_colon (apart : Bool) : '\n' ∉ colon apart ++ [' '] := by
  cases apart <;> decide

theorem trimStart_colon (apart : Bool) (rest : List Char) :
    trimStart (colon apart ++ rest) = ':' :: rest := by
  cases apart with
  | true => rfl
  | false => rfl

namespace Link

/-- The pieces of a label, if there is one. -/
def labelPieces {excluded : List Char} : Option (Phrase excluded) → List (List Char)
  | none => []
  | some phrase => [[':'], phrase.text]

theorem tidy_labelPieces {excluded : List Char} (label : Option (Phrase excluded)) :
    ∀ piece ∈ labelPieces label, Tidy piece := by
  cases label with
  | none => exact List.forall_mem_nil _
  | some phrase =>
      simp only [labelPieces, List.forall_mem_cons]
      exact ⟨tidy_iff.2 (by decide), phrase.tidy, List.forall_mem_nil _⟩

theorem label?_spaced {excluded : List Char} (label : Option (Phrase excluded)) :
    label? (spaced (labelPieces label)) = label.map Phrase.text := by
  cases label with
  | none => rfl
  | some phrase =>
      have colon : Tidy [':'] := tidy_iff.2 (by decide)
      rw [labelPieces, label?, trimStart_spaced colon]
      have read := phrase.nonBlank?_behind
      simpa [spaced_cons] using read

end Link

/-- A text behind a colon, if there is one. -/
def captionText (apart : Bool) : Option (Phrase []) → List Char
  | none => []
  | some phrase => colon apart ++ (' ' :: phrase.text)

/-- A caption does not continue a word. -/
theorem head_captionText (apart : Bool) (caption : Option (Phrase [])) :
    ∀ char ∈ (captionText apart caption).head?, isWord char = false := by
  cases caption with
  | none => simp [captionText]
  | some phrase => exact head_colon apart (' ' :: phrase.text)

theorem label?_captionText (apart : Bool) (caption : Option (Phrase [])) :
    label? (captionText apart caption) = caption.map Phrase.text := by
  cases caption with
  | none => rfl
  | some phrase =>
      rw [captionText, label?, trimStart_colon]
      exact phrase.nonBlank?_behind

theorem tidy_captionText {front : List Char} (tidy : Tidy front) (apart : Bool)
    (caption : Option (Phrase [])) : Tidy (front ++ captionText apart caption) := by
  cases caption with
  | none => simpa [captionText] using tidy
  | some phrase =>
      have joined := tidy.join phrase.tidy (single_colon apart)
      rwa [List.append_assoc] at joined

end DiagramGraph.Written
