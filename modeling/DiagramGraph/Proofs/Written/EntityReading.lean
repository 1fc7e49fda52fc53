import DiagramGraph.Proofs.Text.Lines
import DiagramGraph.Proofs.Written.EntitySyntax
import Mathlib.Data.Bool.AllAny

/-!
# Reading the lines of an entity diagram

Every line that an item is written by is refused by the rules in front of its
own and is read by its own rule as what was written. A relation is looked for
anywhere in a line before an attribute is, so a column has to be free of them: a
relation needs a word, a gap and a shaft behind each other, and there are no three
such in a column.
-/

namespace DiagramGraph.Written

open DiagramGraph.Text DiagramGraph.EntityLine

/-! ## Shafts -/

theorem ContainsShaft.mono {text other : List Char} (shaft : ContainsShaft text)
    (within : text <:+: other) : ContainsShaft other :=
  shaft.imp (·.trans within) (·.trans within)

theorem not_containsShaft {text : List Char} (noDash : '-' ∉ text) (noDot : '.' ∉ text) :
    ¬ ContainsShaft text := by
  rintro (dashes | dots)
  · exact noDash (dashes.subset (by simp))
  · exact noDot (dots.subset (by simp))

/-- A shaft stands on one side of any other character. -/
theorem containsShaft_append_iff {separator : Char} (noDash : separator ≠ '-')
    (noDot : separator ≠ '.') {front back : List Char} :
    ContainsShaft (front ++ separator :: back) ↔ ContainsShaft front ∨ ContainsShaft back := by
  have dashes : separator ∉ ['-', '-'] := by simp [noDash]
  have dots : separator ∉ ['.', '.'] := by simp [noDot]
  rw [ContainsShaft, infix_append_separator_iff dashes, infix_append_separator_iff dots]
  exact or_or_or_comm

theorem shaft?_eq_some {text shaft rest : List Char}
    (read : CrowsFoot.shaft? text = some (shaft, rest)) :
    text = shaft ++ rest ∧ (shaft = ['-', '-'] ∨ shaft = ['.', '.']) := by
  unfold CrowsFoot.shaft? at read
  split at read
  · cases read
    exact ⟨rfl, .inl rfl⟩
  · cases read
    exact ⟨rfl, .inr rfl⟩
  · contradiction

/-! ## What a relation begins with -/

/-- The start of a relation: a word, a gap, and a shaft behind some characters of
a left end. -/
structure Opening where
  word : List Char
  gap : List Char
  left : List Char
  shaft : List Char
  inWord : ∀ char ∈ word, isWord char = true
  apart : gap ≠ []
  blank : ∀ char ∈ gap, isBlank char = true
  adorns : ∀ char ∈ left, CrowsFoot.isLeftChar char = true
  shape : shaft = ['-', '-'] ∨ shaft = ['.', '.']

namespace Opening

/-- The start as it is written. -/
def text (opening : Opening) : List Char :=
  opening.word ++ (opening.gap ++ (opening.left ++ opening.shaft))

theorem containsShaft (opening : Opening) {other : List Char}
    (within : opening.shaft <:+: other) : ContainsShaft other := by
  rcases opening.shape with dashes | dots
  · exact .inl (dashes ▸ within)
  · exact .inr (dots ▸ within)

/-- There is no colon up to the end of the shaft. -/
theorem colon_notMem (opening : Opening) : ':' ∉ opening.text := by
  have noWord : isWord ':' = false := by decide
  have noBlank : isBlank ':' = false := by decide
  have noLeft : CrowsFoot.isLeftChar ':' = false := by decide
  simp only [text, List.mem_append, not_or]
  refine ⟨fun member => ?_, fun member => ?_, fun member => ?_, ?_⟩
  · simp [opening.inWord ':' member] at noWord
  · simp [opening.blank ':' member] at noBlank
  · simp [opening.adorns ':' member] at noLeft
  · rcases opening.shape with dashes | dots
    · simp [dashes]
    · simp [dots]

end Opening

theorem exists_opening_of_relationAt? {text : List Char} {relation : Relationship}
    (read : relationAt? text = some relation) :
    ∃ (opening : Opening) (behind : List Char), text = opening.text ++ behind := by
  obtain ⟨⟨word, rest⟩, leading, others⟩ := Option.bind_eq_some_iff.1 read
  obtain ⟨connector, foot, -⟩ := Option.bind_eq_some_iff.1 others
  obtain ⟨⟨shaft, behind⟩, middle, -⟩ := Option.bind_eq_some_iff.1 foot
  obtain ⟨gap, rfl, inWord, apart, blank⟩ := exists_gap_of_leadingWord? leading
  obtain ⟨onward, shape⟩ := shaft?_eq_some middle
  have adorns : ∀ char ∈ rest.takeWhile CrowsFoot.isLeftChar, CrowsFoot.isLeftChar char = true :=
    fun char member => List.all_eq_true.1 List.all_takeWhile char member
  refine ⟨⟨word, gap, _, shaft, inWord, apart, blank, adorns, shape⟩, behind, ?_⟩
  have left : rest.takeWhile CrowsFoot.isLeftChar ++ (shaft ++ behind) = rest := by
    rw [← onward, List.takeWhile_append_dropWhile]
  simp only [Opening.text, List.append_assoc, left]

section Refused

variable {front rest : List Char}

/-- A relation does not go over a colon in front of its shaft. -/
theorem relationAt?_colon (shaftless : ¬ ContainsShaft front) :
    relationAt? (front ++ ':' :: rest) = none := by
  cases read : relationAt? (front ++ ':' :: rest) with
  | none => rfl
  | some relation =>
      obtain ⟨opening, behind, split⟩ := exists_opening_of_relationAt? read
      obtain ⟨inner, rfl, -⟩ := (append_separator_eq_append opening.colon_notMem).1 split
      refine absurd (opening.containsShaft ?_) shaftless
      exact ⟨opening.word ++ (opening.gap ++ opening.left), inner, by simp [Opening.text]⟩

/-- A relation does not begin in a text without blanks if there is no shaft behind
that. -/
theorem relationAt?_visible (visible : ∀ char ∈ front, isBlank char = false)
    (shaftless : ¬ ContainsShaft rest) : relationAt? (front ++ rest) = none := by
  cases read : relationAt? (front ++ rest) with
  | none => rfl
  | some relation =>
      obtain ⟨opening, behind, split⟩ := exists_opening_of_relationAt? read
      have within (further : List Char)
          (same : further ++ (opening.left ++ (opening.shaft ++ behind)) = rest) : False :=
        shaftless (opening.containsShaft ⟨further ++ opening.left, behind, by simpa using same⟩)
      -- The gap begins at the end of the visible text or later, and the shaft stands behind it.
      simp only [Opening.text, List.append_assoc] at split
      rcases List.append_eq_append_iff.1 split with ⟨others, -, same⟩ | ⟨others, rfl, same⟩
      · exact (within (others ++ opening.gap) (by simpa using same.symm)).elim
      · cases others with
        | nil => exact (within opening.gap same).elim
        | cons first others =>
            obtain ⟨blank, more, shape⟩ := List.exists_cons_of_ne_nil opening.apart
            rw [shape] at same
            cases (List.cons.inj same).1
            have isBlank := opening.blank first (by simp [shape])
            rw [visible first (by simp)] at isBlank
            contradiction

end Refused

/-- No relation begins in front of a colon that has no shaft in front of it. -/
theorem firstAtWord_relationAt?_colon {front : List Char} (shaftless : ¬ ContainsShaft front)
    (inWord : Bool) (rest : List Char) :
    firstAtWord relationAt? inWord (front ++ ':' :: rest) = firstAtWord relationAt? false rest := by
  induction front generalizing inWord with
  | nil => exact firstAtWord_of_refused (relationAt?_colon shaftless) inWord
  | cons char front ih =>
      have refused : relationAt? (char :: (front ++ ':' :: rest)) = none :=
        relationAt?_colon shaftless
      rw [List.cons_append, firstAtWord_of_refused refused]
      exact ih (fun shaft => shaftless (shaft.mono (List.suffix_cons char front).isInfix)) _

/-- No relation stands in a text without shafts, nor in one without blanks in
front of that. -/
theorem firstAtWord_relationAt?_visible {front rest : List Char}
    (visible : ∀ char ∈ front, isBlank char = false) (shaftless : ¬ ContainsShaft rest)
    (inWord : Bool) : firstAtWord relationAt? inWord (front ++ rest) = none := by
  induction front generalizing inWord with
  | nil =>
      induction rest generalizing inWord with
      | nil => rfl
      | cons char rest ih =>
          have behind := ih fun shaft => shaftless (shaft.mono (List.suffix_cons char rest).isInfix)
          have refused : relationAt? ([] ++ char :: rest) = none :=
            relationAt?_visible visible shaftless
          rw [List.nil_append, firstAtWord_of_refused refused]
          exact behind _
  | cons char front ih =>
      have refused : relationAt? (char :: (front ++ rest)) = none :=
        relationAt?_visible visible shaftless
      rw [List.cons_append, firstAtWord_of_refused refused]
      exact ih (fun other member => visible other (List.mem_cons_of_mem _ member)) _

/-! ## Braces -/

namespace Braces

theorem notMem (braces : Braces) {char : Char} (visible : isBlank char = false)
    (noOpening : char ≠ '\x7b') (noClosing : char ≠ '\x7d') : char ∉ braces.text := by
  intro member
  rcases braces.braces char member with blank | opening | closing
  · rw [visible] at blank
    contradiction
  · exact noOpening opening
  · exact noClosing closing

theorem shaftless (braces : Braces) : ¬ ContainsShaft braces.text :=
  not_containsShaft (braces.notMem (by decide) (by decide) (by decide))
    (braces.notMem (by decide) (by decide) (by decide))

/-- Neither a blank nor a brace continues a path. -/
theorem outside (braces : Braces) : ∀ char ∈ braces.text, isPathChar char = false := by
  intro char member
  rcases braces.braces char member with blank | rfl | rfl
  · cases path : isPathChar char with
    | false => rfl
    | true =>
        rw [isBlank_eq_false_of_isPathChar path] at blank
        contradiction
  · decide
  · decide

theorem noWord (braces : Braces) : ∀ char ∈ braces.text, isWord char = false := by
  intro char member
  have path := braces.outside char member
  rw [isPathChar, Bool.or_eq_false_iff] at path
  exact path.1

/-- Braces introduce no alias. -/
theorem aliasName?_text (braces : Braces) : aliasName? braces.text = none := by
  cases skipped : gap? braces.text with
  | none => simp [aliasName?, skipped]
  | some rest =>
      obtain ⟨gap, -, -, -, split⟩ := gap?_eq_some_iff.1 skipped
      have unled : leadingWord? rest = none := by
        apply leadingWord?_eq_none
        intro char member
        apply braces.noWord
        rw [split]
        exact List.mem_append_right gap (List.mem_of_head? member)
      simp [aliasName?, skipped, unled]

theorem tidy_append (braces : Braces) {front : List Char} (tidy : Tidy front) :
    Tidy (front ++ braces.text) where
  start := by
    obtain ⟨first, starts, visible⟩ := tidy.start
    exact ⟨first, by simp [List.head?_append, Option.mem_def.1 starts], visible⟩
  finish := by
    rw [List.getLast?_append]
    cases ends : braces.text.getLast? with
    | none => simpa using tidy.finish
    | some last => exact ⟨last, rfl, braces.finish last ends⟩
  single := by simp [tidy.single, braces.single]

end Braces

/-! ## Entities -/

namespace DeclaredEntity

theorem tidy_namedText (declared : DeclaredEntity) : Tidy declared.namedText := by
  have aliased : ∀ piece ∈ aliasPieces declared.aliasWord, Tidy piece := tidy_aliasPieces
  have named := declared.braces.tidy_append (tidy_spaced declared.name.tidy aliased)
  rwa [List.append_assoc] at named

/-- The line of a declaration declares the entity. -/
theorem entity?_text (declared : DeclaredEntity) :
    entity? declared.text = some declared.meaning := by
  have leading : leadingWord? declared.text = some (entityWord.text, declared.namedText) := by
    have visible := declared.tidy_namedText.head_append []
    rw [List.append_nil] at visible
    exact entityWord.leadingWord?_behind visible
  have named : Declaration.named? declared.namedText =
      some ⟨declared.name.text, declared.aliasWord.map Word.text, declared.braces.text⟩ :=
    named?_append declared.name declared.aliasWord
      (fun char member => declared.braces.noWord char (List.mem_of_head? member))
      declared.braces.aliasName?_text
  have keyword : entityWord.text = "entity".toList := rfl
  rw [entity?, Declaration.read?_of_leadingWord? leading, if_pos keyword, named]
  simp [Declaration.element, meaning, Function.comp_def]

theorem entryOf?_text (declared : DeclaredEntity) :
    entryOf? declared.text = some (.element declared.meaning) := by
  rw [entryOf?, declared.entity?_text]
  rfl

end DeclaredEntity

/-! ## Relations -/

namespace Foot

theorem isBlank_eq_false_of_isLeftChar {char : Char} (adorns : CrowsFoot.isLeftChar char = true) :
    isBlank char = false := by
  simp only [CrowsFoot.isLeftChar, Bool.or_eq_true, beq_iff_eq] at adorns
  rcases adorns with (rfl | rfl) | rfl <;> decide

theorem isBlank_eq_false_of_isRightChar {char : Char}
    (adorns : CrowsFoot.isRightChar char = true) : isBlank char = false := by
  simp only [CrowsFoot.isRightChar, Bool.or_eq_true, beq_iff_eq] at adorns
  rcases adorns with (rfl | rfl) | rfl <;> decide

/-- Left ends are made of the characters for them. -/
theorem isLeftChar_of_isLeftEnd {left : List Char} (leftEnd : CrowsFoot.isLeftEnd left = true) :
    ∀ char ∈ left, CrowsFoot.isLeftChar char = true := by
  match left with
  | [] => exact List.forall_mem_nil _
  | [outer] => simpa [CrowsFoot.isLeftEnd, CrowsFoot.isLeftChar] using leftEnd
  | [outer, inner] =>
      simp only [CrowsFoot.isLeftEnd, Bool.and_eq_true, Bool.or_eq_true] at leftEnd
      simp only [List.forall_mem_cons, CrowsFoot.isLeftChar, Bool.or_eq_true]
      exact ⟨leftEnd.1, .inl leftEnd.2, List.forall_mem_nil _⟩

/-- Right ends are made of the characters for them. -/
theorem isRightChar_of_isRightEnd {right : List Char}
    (rightEnd : CrowsFoot.isRightEnd right = true) :
    ∀ char ∈ right, CrowsFoot.isRightChar char = true := by
  match right with
  | [] => exact List.forall_mem_nil _
  | [outer] => simpa [CrowsFoot.isRightEnd, CrowsFoot.isRightChar] using rightEnd
  | [inner, outer] =>
      simp only [CrowsFoot.isRightEnd, Bool.and_eq_true, Bool.or_eq_true] at rightEnd
      simp only [List.forall_mem_cons, CrowsFoot.isRightChar, Bool.or_eq_true]
      exact ⟨.inl rightEnd.1, rightEnd.2, List.forall_mem_nil _⟩

/-- A connector is read up to the blank behind it. -/
theorem read?_append {left right rest : List Char} (dotted : Bool)
    (leftEnd : CrowsFoot.isLeftEnd left = true) (rightEnd : CrowsFoot.isRightEnd right = true)
    (blank : ∀ char ∈ rest.head?, isBlank char = true) :
    CrowsFoot.read? (left ++ (shaftText dotted ++ right) ++ rest) =
      some (left ++ (shaftText dotted ++ right), rest) := by
  have adornsLeft := isLeftChar_of_isLeftEnd leftEnd
  have adornsRight := isRightChar_of_isRightEnd rightEnd
  have shaftFirst (behind : List Char) : ∀ char ∈ (shaftText dotted ++ behind).head?,
      CrowsFoot.isLeftChar char = false := by
    cases dotted with
    | true =>
        rintro char ⟨⟩
        decide
    | false =>
        rintro char ⟨⟩
        decide
  have shaft (behind : List Char) : CrowsFoot.shaft? (shaftText dotted ++ behind) =
      some (shaftText dotted, behind) := by
    cases dotted with
    | true => rfl
    | false => rfl
  have blankFirst : ∀ char ∈ rest.head?, CrowsFoot.isRightChar char = false := by
    intro char member
    cases adorns : CrowsFoot.isRightChar char with
    | false => rfl
    | true =>
        have seen := isBlank_eq_false_of_isRightChar adorns
        exact absurd (seen.symm.trans (blank char member)) Bool.false_ne_true
  simp [CrowsFoot.read?, takeWhile_run_append adornsLeft (shaftFirst _),
    dropWhile_run_append adornsLeft (shaftFirst _), shaft,
    takeWhile_run_append adornsRight blankFirst, dropWhile_run_append adornsRight blankFirst,
    leftEnd, rightEnd]

theorem isLeftEnd_endText (mark : Option Mark) :
    CrowsFoot.isLeftEnd (endText .left mark) = true := by
  cases mark with
  | none => rfl
  | some mark =>
      cases mark with
      | one => rfl
      | zeroOrOne barFirst => cases barFirst <;> rfl
      | zeroOrMany => rfl
      | oneOrMany => rfl

theorem isRightEnd_endText (mark : Option Mark) :
    CrowsFoot.isRightEnd (endText .right mark) = true := by
  cases mark with
  | none => rfl
  | some mark =>
      cases mark with
      | one => rfl
      | zeroOrOne barFirst => cases barFirst <;> rfl
      | zeroOrMany => rfl
      | oneOrMany => rfl

theorem read?_spaced (foot : Foot) (pieces : List (List Char)) :
    CrowsFoot.read? (foot.text ++ spaced pieces) = some (foot.text, spaced pieces) :=
  read?_append foot.dotted (isLeftEnd_endText foot.left) (isRightEnd_endText foot.right)
    (isBlank_head_spaced pieces)

/-- The cardinality depends on the window only. -/
theorem cardinality_congr {connector other : List Char} {side otherSide : ConnectorEnd}
    (same : CrowsFoot.window connector side = CrowsFoot.window other otherSide) :
    CrowsFoot.cardinality connector side = CrowsFoot.cardinality other otherSide := by
  rw [CrowsFoot.cardinality, CrowsFoot.cardinality, same]

theorem cardinality_text (mark : Mark) (side : ConnectorEnd) :
    CrowsFoot.cardinality (mark.text side) side = mark.cardinality := by
  cases mark with
  | one => cases side <;> decide
  | zeroOrOne barFirst => cases barFirst <;> cases side <;> decide
  | zeroOrMany => cases side <;> decide
  | oneOrMany => cases side <;> decide

/-- A shaft is no marker. -/
theorem cardinality_shaftText (dotted : Bool) (side : ConnectorEnd) :
    CrowsFoot.cardinality (shaftText dotted) side = .many := by
  cases dotted <;> cases side <;> decide

theorem length_text (mark : Mark) (side : ConnectorEnd) : (mark.text side).length = 2 := by
  cases mark with
  | one => cases side <;> rfl
  | zeroOrOne barFirst => cases barFirst <;> cases side <;> rfl
  | zeroOrMany => cases side <;> rfl
  | oneOrMany => cases side <;> rfl

theorem length_shaftText (dotted : Bool) : (shaftText dotted).length = 2 := by
  cases dotted <;> rfl

/-- The window at the left end holds the marker there, or else the shaft. -/
theorem cardinality_left (foot : Foot) :
    CrowsFoot.cardinality foot.text .left = endCardinality foot.left := by
  have shown {front : List Char} (two : front.length = 2) (rest : List Char) :
      CrowsFoot.cardinality (front ++ rest) .left = CrowsFoot.cardinality front .left :=
    cardinality_congr (by simp [CrowsFoot.window, ← two])
  rw [text]
  cases foot.left with
  | some mark => exact (shown (length_text mark .left) _).trans (cardinality_text mark .left)
  | none =>
      exact (shown (length_shaftText foot.dotted) _).trans (cardinality_shaftText foot.dotted .left)

/-- The window at the right end holds the marker there, or else the shaft. -/
theorem cardinality_right (foot : Foot) :
    CrowsFoot.cardinality foot.text .right = endCardinality foot.right := by
  have shown {back : List Char} (two : back.length = 2) (front : List Char) :
      CrowsFoot.cardinality (front ++ back) .right = CrowsFoot.cardinality back .right :=
    cardinality_congr (by simp [CrowsFoot.window, two])
  rw [text]
  cases foot.right with
  | some mark =>
      rw [← List.append_assoc]
      exact (shown (length_text mark .right) _).trans (cardinality_text mark .right)
  | none =>
      rw [endText, List.append_nil]
      exact (shown (length_shaftText foot.dotted) _).trans
        (cardinality_shaftText foot.dotted .right)

theorem tidy_of_ends {left right : List Char} (dotted : Bool)
    (leftEnd : CrowsFoot.isLeftEnd left = true) (rightEnd : CrowsFoot.isRightEnd right = true) :
    Tidy (left ++ (shaftText dotted ++ right)) := by
  apply tidy_of_forall
  · cases dotted <;> simp [shaftText]
  · simp only [List.forall_mem_append]
    refine ⟨fun char member => ?_, ?_, fun char member => ?_⟩
    · exact isBlank_eq_false_of_isLeftChar (isLeftChar_of_isLeftEnd leftEnd char member)
    · cases dotted <;> exact List.all_iff_forall_prop.1 (by decide)
    · exact isBlank_eq_false_of_isRightChar (isRightChar_of_isRightEnd rightEnd char member)

theorem tidy (foot : Foot) : Tidy foot.text :=
  tidy_of_ends foot.dotted (isLeftEnd_endText foot.left) (isRightEnd_endText foot.right)

end Foot

namespace Relation

theorem leadingWord?_text (relation : Relation) :
    leadingWord? relation.text =
      some (relation.source.text, relation.foot.text ++
        spaced (relation.target.text :: Link.labelPieces relation.label)) :=
  relation.source.leadingWord?_spaced relation.foot.tidy _

/-- The line of a relation states the relation. -/
theorem relationAt?_text (relation : Relation) :
    relationAt? relation.text = some relation.meaning := by
  simp [relationAt?, relation.leadingWord?_text, relation.foot.read?_spaced,
    gap?_spaced relation.target.tidy, relation.target.word?_spaced, Link.label?_spaced,
    relation.foot.cardinality_left, relation.foot.cardinality_right, meaning, Function.comp_def]

theorem relation?_text (relation : Relation) :
    relation? relation.text = some relation.meaning :=
  relation.source.firstAtWord_append relation.relationAt?_text

/-- No relation begins like an entity. -/
theorem entity?_text (relation : Relation) : entity? relation.text = none := by
  have read : Declaration.read? "entity".toList relation.text = none := by
    rw [Declaration.read?_of_leadingWord? relation.leadingWord?_text]
    exact if_neg relation.undeclaring
  rw [entity?, read]
  rfl

theorem entryOf?_text (relation : Relation) :
    entryOf? relation.text = some (.relationship relation.meaning) := by
  rw [entryOf?, relation.entity?_text, relation.relation?_text]
  rfl

end Relation

/-! ## Columns -/

namespace ColumnType

theorem tidy (type : ColumnType) : Tidy type.text := by
  have path : Tidy type.path :=
    tidy_of_forall type.nonempty fun char member =>
      isBlank_eq_false_of_isPathChar (type.dotted char member)
  cases shape : type.arguments with
  | none => simpa [text, shape, argumentsText] using path
  | some inner =>
      rw [text, shape]
      exact path.append (tidy_enclosed (by decide) (by decide) (type.plain inner shape).2)

/-- A type is read up to the braces behind it. -/
theorem type?_text (type : ColumnType) (braces : Braces) :
    type? (type.text ++ braces.text) = some type.text := by
  cases shape : type.arguments with
  | some inner =>
      have stop : ∀ char ∈ (argumentsText (some inner) ++ braces.text).head?,
          isPathChar char = false := by
        rintro char ⟨⟩
        decide
      have read := upTo?_append (type.plain inner shape).1 braces.text
      have arguments : typeArguments (argumentsText (some inner) ++ braces.text) =
          argumentsText (some inner) := by
        simp [argumentsText, typeArguments, read]
      simp [type?, text, shape, run?_append type.nonempty type.dotted stop, arguments]
  | none =>
      have stop : ∀ char ∈ braces.text.head?, isPathChar char = false := fun char member =>
        braces.outside char (List.mem_of_head? member)
      have parenthesis : '(' ∉ braces.text := braces.notMem (by decide) (by decide) (by decide)
      have arguments : typeArguments braces.text = [] := by
        unfold typeArguments
        split
        · next same => simp [same] at parenthesis
        · rfl
      have path := run?_append type.nonempty type.dotted stop
      simp [type?, text, shape, argumentsText, path, arguments]

/-- Neither the arguments nor the braces behind them hold a shaft. -/
theorem shaftless_argumentsText (type : ColumnType) (braces : Braces) :
    ¬ ContainsShaft (argumentsText type.arguments ++ braces.text) := by
  cases shape : type.arguments with
  | none => exact braces.shaftless
  | some inner =>
      have split : argumentsText (some inner) ++ braces.text =
          [] ++ '(' :: (inner ++ ')' :: braces.text) := by
        simp [argumentsText]
      have empty : ¬ ContainsShaft [] := not_containsShaft (by simp) (by simp)
      rw [split, containsShaft_append_iff (by decide) (by decide),
        containsShaft_append_iff (by decide) (by decide)]
      simp [empty, type.shaftless inner shape, braces.shaftless]

end ColumnType

namespace Column

/-- What stands in front of the colon of a column. -/
def headText (column : Column) : List Char :=
  starText column.mandatory column.starApart ++
    (column.name.text ++ if column.colonApart then [' '] else [])

/-- What stands behind the colon of a column. -/
def behindText (column : Column) : List Char :=
  ' ' :: (column.type.text ++ column.braces.text)

theorem text_eq (column : Column) : column.text = column.headText ++ ':' :: column.behindText := by
  rw [text, headText, behindText]
  cases column.colonApart <;> simp [colon]

/-- Nothing in front of the colon is like a shaft. -/
theorem shaftless_headText (column : Column) : ¬ ContainsShaft column.headText := by
  have star : '-' ∉ starText column.mandatory column.starApart ∧
      '.' ∉ starText column.mandatory column.starApart := by
    cases column.mandatory <;> cases column.starApart <;> decide
  have dash : isWord '-' = false := by decide
  have dot : isWord '.' = false := by decide
  apply not_containsShaft
  · simp [headText, star, column.name.notMem dash]
  · simp [headText, star, column.name.notMem dot]

/-- There is no relation on the line of a column, so it is left for the
attributes. -/
theorem relation?_text (column : Column) : relation? column.text = none := by
  have visible : ∀ char ∈ column.type.path, isBlank char = false := fun char member =>
    isBlank_eq_false_of_isPathChar (column.type.dotted char member)
  have noWord : leadingWord? column.behindText = none := by
    apply leadingWord?_eq_none
    rintro char ⟨⟩
    decide
  have blank : relationAt? column.behindText = none := by simp [relationAt?, noWord]
  -- No relation reaches over the colon; behind it there are no blanks in the path, which may
  -- hold dots, and no shaft behind the path.
  rw [relation?, text_eq, firstAtWord_relationAt?_colon column.shaftless_headText]
  rw [behindText] at blank ⊢
  rw [firstAtWord_of_refused blank, ColumnType.text, List.append_assoc]
  exact firstAtWord_relationAt?_visible visible
    (column.type.shaftless_argumentsText column.braces) _

/-- The name is reached behind the star. -/
theorem trimStart_skipStar (mandatory apart : Bool) (word : Word) (rest : List Char) :
    trimStart (skipStar (starText mandatory apart ++ (word.text ++ rest))) = word.text ++ rest := by
  have visible := word.tidy.head_append rest
  cases mandatory with
  | true =>
      cases apart with
      | true => exact trimStart_behind visible
      | false => exact trimStart_eq_self visible
  | false =>
      have unstarred : skipStar (word.text ++ rest) = word.text ++ rest := by
        obtain ⟨first, more, shape⟩ := List.exists_cons_of_ne_nil word.nonempty
        have outside : isWord '*' = false := by decide
        unfold skipStar
        split
        · next same =>
            rw [shape, List.cons_append] at same
            cases (List.cons.inj same).1
            exact absurd (by simp [shape]) (word.notMem outside)
        · rfl
      rw [starText, if_neg (by decide), List.nil_append, unstarred, trimStart_eq_self visible]

/-- The line of a column makes the attribute. -/
theorem attribute?_text (column : Column) : attribute? column.text = some column.meaning := by
  have name := column.name.word?_append (head_colon column.colonApart column.behindText)
  have type : trimStart column.behindText = column.type.text ++ column.braces.text :=
    trimStart_behind (column.type.tidy.head_append column.braces.text)
  rw [behindText] at name type
  simp [attribute?, text, trimStart_skipStar, name, trimStart_colon, type,
    column.type.type?_text, meaning]

/-- No column begins like an entity: behind its name comes a colon. -/
theorem entity?_text (column : Column) : entity? column.text = none := by
  have read : Declaration.read? "entity".toList column.text = none := by
    rw [text]
    cases column.mandatory with
    | true =>
        apply Declaration.read?_eq_none
        apply leadingWord?_eq_none
        cases column.starApart with
        | true =>
            rintro char ⟨⟩
            decide
        | false =>
            rintro char ⟨⟩
            decide
    | false =>
        cases column.colonApart with
        | true =>
            have leading : leadingWord? (column.name.text ++ (' ' :: (':' :: column.behindText))) =
                some (column.name.text, ':' :: column.behindText) := by
              apply column.name.leadingWord?_behind
              rintro char ⟨⟩
              decide
            have unnamed : Declaration.named? (':' :: column.behindText) = none := rfl
            have refused : Declaration.read? "entity".toList
                (column.name.text ++ (' ' :: (':' :: column.behindText))) = none := by
              rw [Declaration.read?_of_leadingWord? leading, unnamed, ite_self]
            exact refused
        | false =>
            apply Declaration.read?_eq_none
            apply column.name.leadingWord?_alone
            · rintro char ⟨⟩
              decide
            · rintro char ⟨⟩
              decide
  rw [entity?, read]
  rfl

theorem entryOf?_text (column : Column) : entryOf? column.text = some (.field column.meaning) := by
  rw [entryOf?, column.entity?_text, column.relation?_text, column.attribute?_text]
  rfl

end Column

end DiagramGraph.Written
