import DiagramGraph.Proofs.Written.ClassSyntax
import Mathlib.Data.Bool.AllAny

/-!
# Reading the lines of a class diagram

Every line that an item is written by is tidy, is refused by the rules in front
of its own, and is read by its own rule as what was written.
-/

namespace DiagramGraph.Written

open DiagramGraph.Text DiagramGraph.ClassLine

/-! ## Types -/

namespace TypeText

theorem tidy (type : TypeText) : Tidy type.text := by
  have path : Tidy type.path :=
    tidy_of_forall type.nonempty fun char member =>
      isBlank_eq_false_of_isPathChar (type.dotted char member)
  have arguments : Tidy (type.path ++ argumentsText type.arguments) := by
    cases shape : type.arguments with
    | none => simpa [argumentsText] using path
    | some inner =>
        exact path.append (tidy_enclosed (by decide) (by decide) (type.plain inner shape).2)
  rw [text, ← List.append_assoc]
  cases type.array with
  | false => simpa [arrayText] using arguments
  | true => exact arguments.append (tidy_iff.2 (by decide))

section Behind

/-! What stands behind a type must not continue it. -/

variable {rest : List Char}
  (stop : ∀ char ∈ rest.head?, isPathChar char = false ∧ char ≠ '<' ∧ char ≠ '[')

include stop

theorem arrayMark_append (array : Bool) :
    arrayMark (arrayText array ++ rest) = (arrayText array, rest) := by
  cases array with
  | true => rfl
  | false =>
      cases rest with
      | nil => rfl
      | cons char rest =>
          rw [arrayText, if_neg Bool.false_ne_true, List.nil_append, arrayMark]
          rintro more ⟨rfl⟩
          exact (stop '[' rfl).2.2 rfl

theorem typeArguments_append (type : TypeText) :
    typeArguments (argumentsText type.arguments ++ (arrayText type.array ++ rest)) =
      (argumentsText type.arguments, arrayText type.array ++ rest) := by
  cases shape : type.arguments with
  | some inner =>
      have read := upTo?_append (type.plain inner shape).1 (arrayText type.array ++ rest)
      simp [argumentsText, typeArguments, read]
  | none =>
      cases type.array with
      | true => rfl
      | false =>
          cases rest with
          | nil => rfl
          | cons char rest =>
              rw [argumentsText, arrayText, if_neg Bool.false_ne_true, List.nil_append,
                List.nil_append, typeArguments]
              rintro more ⟨rfl⟩
              exact (stop '<' rfl).2.1 rfl

/-- The path of a type ends where its arguments or brackets begin. -/
theorem head_behind_path (type : TypeText) :
    ∀ char ∈ (argumentsText type.arguments ++ (arrayText type.array ++ rest)).head?,
      isPathChar char = false := by
  cases type.arguments with
  | some inner =>
      rintro char ⟨⟩
      decide
  | none =>
      cases type.array with
      | true =>
          rintro char ⟨⟩
          decide
      | false => exact fun char starts => (stop char starts).1

/-- A type is read up to what cannot continue it. -/
theorem type?_append (type : TypeText) :
    type? (type.text ++ rest) = some (type.text, rest) := by
  have path := run?_append type.nonempty type.dotted (type.head_behind_path stop)
  simp [type?, text, path, type.typeArguments_append stop, arrayMark_append stop]

end Behind

/-- A set-apart piece does not continue a type. -/
theorem head_spaced_behind (pieces : List (List Char)) :
    ∀ char ∈ (spaced pieces).head?, isPathChar char = false ∧ char ≠ '<' ∧ char ≠ '[' := by
  intro char starts
  rw [head_spaced pieces char starts]
  decide

/-- A type is read up to a blank or the end of the line. -/
theorem type?_spaced (type : TypeText) (pieces : List (List Char)) :
    type? (type.text ++ spaced pieces) = some (type.text, spaced pieces) :=
  type.type?_append (head_spaced_behind pieces)

end TypeText

/-! ## In front of a member -/

/-- A line that does not begin with a word is refused by the rules for
declarations and relationships. -/
theorem entryOf?_of_leadingWord? {line : List Char} (noWord : leadingWord? line = none) :
    entryOf? line = member? line := by
  have head : classHead? line = none := by
    rw [classHead?, noWord]
    rfl
  have declared : declaration? line = none := by
    rw [declaration?, class?, head, interface?, Declaration.read?_eq_none noWord, enumeration?,
      Declaration.read?_eq_none noWord]
    rfl
  have related : relationship? line = none := by
    rw [relationship?, relationshipParts?, noWord]
    rfl
  rw [entryOf?, declared, related]
  rfl

theorem isMarker_marker (visibility : Visibility) :
    Visibility.isMarker visibility.marker = true := by
  cases visibility <;> decide

theorem isWord_marker (visibility : Visibility) : isWord visibility.marker = false := by
  cases visibility <;> decide

/-- A marker is no word character. -/
theorem isMarker_eq_false_of_isWord {char : Char} (word : isWord char = true) :
    Visibility.isMarker char = false := by
  cases marked : Visibility.isMarker char with
  | false => rfl
  | true =>
      obtain ⟨visibility, -, same⟩ := List.any_eq_true.1 marked
      rw [← beq_iff_eq.1 same, isWord_marker] at word
      contradiction

theorem marker_cons (visibility : Visibility) (rest : List Char) :
    marker (visibility.marker :: rest) = (some [visibility.marker], rest) := by
  simp [marker, isMarker_marker]

theorem Word.marker_append (word : Word) (rest : List Char) :
    marker (word.text ++ rest) = (none, word.text ++ rest) := by
  obtain ⟨first, more, shape⟩ := List.exists_cons_of_ne_nil word.nonempty
  have unmarked := isMarker_eq_false_of_isWord (word.word first (by simp [shape]))
  simp [shape, marker, unmarked]

/-- A text that does not begin with a brace has no modifier in front. -/
theorem modifier_eq_none {text : List Char} (other : ∀ char ∈ text.head?, char ≠ '\x7b') :
    modifier text = (none, text) := by
  cases text with
  | nil => rfl
  | cons first rest => simp [modifier, modifiers, after?, other first rfl]

theorem Word.modifier_append (word : Word) (rest : List Char) :
    modifier (word.text ++ rest) = (none, word.text ++ rest) := by
  obtain ⟨first, more, shape⟩ := List.exists_cons_of_ne_nil word.nonempty
  apply modifier_eq_none
  rw [shape]
  rintro char ⟨⟩ rfl
  have outside : isWord '\x7b' = false := by decide
  exact word.notMem outside (by simp [shape])

/-- A modifier is read together with the blank behind it. -/
theorem modifier_modifierText (written : Modifier) {rest : List Char}
    (visible : ∀ char ∈ rest.head?, isBlank char = false) :
    modifier (Operation.modifierText written ++ (' ' :: rest)) = (some written, rest) := by
  have behind : trimStart ([' '] ++ rest) = rest :=
    trimStart_append (List.all_eq_true.1 (by decide)) visible
  have read : modifier (Operation.modifierText written ++ (' ' :: rest)) =
      (some written, trimStart (' ' :: rest)) := by
    cases written <;> rfl
  rw [read]
  exact congrArg (Prod.mk (some written)) behind

/-- What is written in front of a name is read back. -/
theorem memberHead_headText (visibility : Visibility) (written : Option Modifier)
    (markerFirst : Bool) (word : Word) (rest : List Char) :
    memberHead (Operation.headText visibility written markerFirst ++ (word.text ++ rest)) =
      (visibility, written, word.text ++ rest) := by
  cases written with
  | none =>
      simp [Operation.headText, memberHead, marker_cons, word.modifier_append, word.marker_append,
        Visibility.ofMarker_marker]
  | some written =>
      cases markerFirst with
      | true =>
          have modified := modifier_modifierText written (word.tidy.head_append rest)
          simp [Operation.headText, memberHead, marker_cons, modified, word.marker_append,
            Visibility.ofMarker_marker]
      | false =>
          have unmarked (more : List Char) :
              marker (Operation.modifierText written ++ more) =
                (none, Operation.modifierText written ++ more) := by
            cases written <;> rfl
          have visible : isBlank visibility.marker = false := by
            cases visibility <;> decide
          have modified :
              modifier (Operation.modifierText written ++
                  (' ' :: visibility.marker :: (word.text ++ rest))) =
                (some written, visibility.marker :: (word.text ++ rest)) :=
            modifier_modifierText written (by simpa using visible)
          simp [Operation.headText, memberHead, unmarked, modified, marker_cons,
            Visibility.ofMarker_marker]

/-! ## Members -/

theorem afterColon?_colon (apart : Bool) {piece : List Char} (tidy : Tidy piece)
    (pieces : List (List Char)) :
    afterColon? (colon apart ++ spaced (piece :: pieces)) = some (piece ++ spaced pieces) := by
  rw [afterColon?, trimStart_colon]
  exact congrArg some (trimStart_spaced tidy pieces)

namespace Field

theorem default?_spaced (default : Option (Phrase [])) :
    default? (spaced (defaultPieces default)) = default.map Phrase.text := by
  cases default with
  | none => rfl
  | some phrase =>
      have equals : Tidy ['='] := tidy_iff.2 (by decide)
      rw [defaultPieces, default?, trimStart_spaced equals]
      have read := phrase.nonBlank?_behind
      simpa [spaced_cons] using read

/-- What a line makes of a piece behind the colon in which a type is found. -/
theorem attribute?_piece (visibility : Visibility) (name : Word) (apart : Bool)
    {piece type rest : List Char} (tidy : Tidy piece) (pieces : List (List Char))
    (read : type? (piece ++ spaced pieces) = some (type, rest)) :
    attribute? (visibility.marker :: (name.text ++ (colon apart ++ spaced (piece :: pieces)))) =
      some
        { name := String.ofList name.text
          datatype := some (String.ofList type)
          visibility := some visibility
          defaultValue := (default? rest).map String.ofList } := by
  have head :
      memberHead (visibility.marker :: (name.text ++ (colon apart ++ spaced (piece :: pieces)))) =
        (visibility, none, name.text ++ (colon apart ++ spaced (piece :: pieces))) :=
    memberHead_headText visibility none true name _
  have word := name.word?_append (head_colon apart (spaced (piece :: pieces)))
  have behind := afterColon?_colon apart tidy pieces
  simp [attribute?, head, word, behind, read]

/-- The line of an attribute makes the attribute. -/
theorem attribute?_text (field : Field) : attribute? field.text = some field.meaning := by
  have read := attribute?_piece field.visibility field.name field.colonApart field.type.tidy
    (defaultPieces field.default) (field.type.type?_spaced (defaultPieces field.default))
  rw [text, read, default?_spaced, Option.map_map]
  rfl

end Field

namespace Operation

theorem head_headText (visibility : Visibility) (written : Option Modifier) (markerFirst : Bool)
    (rest : List Char) :
    ∀ char ∈ (headText visibility written markerFirst ++ rest).head?, isWord char = false := by
  have visible := isWord_marker visibility
  cases written with
  | none =>
      rintro char ⟨⟩
      exact visible
  | some written =>
      cases markerFirst with
      | true =>
          rintro char ⟨⟩
          exact visible
      | false =>
          have brace : isWord '\x7b' = false := by decide
          cases written <;> rintro char ⟨⟩ <;> exact brace

section Written

variable (visibility : Visibility) (written : Option Modifier) (markerFirst : Bool) (name : Word)

/-- A parenthesis is no colon, so the line of a method makes no attribute. -/
theorem attribute?_parenthesis (rest : List Char) :
    attribute? (headText visibility written markerFirst ++ (name.text ++ ('(' :: rest))) =
      none := by
  have word : word? (name.text ++ ('(' :: rest)) = some (name.text, '(' :: rest) := by
    apply name.word?_append
    rintro char ⟨⟩
    decide
  rw [attribute?, memberHead_headText]
  simp only [word]
  rfl

/-- What a line makes of the texts between and behind its parentheses. -/
theorem method?_parenthesis {parameters : List Char} (closed : ')' ∉ parameters)
    (rest : List Char) :
    method? (headText visibility written markerFirst ++
        (name.text ++ ('(' :: (parameters ++ ')' :: rest)))) =
      some
        { name := String.ofList name.text
          parameters := (nonBlank? parameters).map String.ofList
          returnType := ((afterColon? rest).bind type?).map fun (type, _) => String.ofList type
          visibility := some visibility
          isAbstract := if written = some .abstract then some true else none
          isStatic :=
            if written = some .static ∨ written = some .classifier then some true else none } := by
  have word : word? (name.text ++ ('(' :: (parameters ++ ')' :: rest))) =
      some (name.text, '(' :: (parameters ++ ')' :: rest)) := by
    apply name.word?_append
    rintro char ⟨⟩
    decide
  have enclosed : parameters? ('(' :: (parameters ++ ')' :: rest)) = some (parameters, rest) :=
    upTo?_append closed rest
  rw [method?, memberHead_headText]
  simp only [word, enclosed, Option.bind_eq_bind, Option.bind_some, Option.pure_def]

end Written

theorem attribute?_text (operation : Operation) : attribute? operation.text = none :=
  attribute?_parenthesis _ _ _ _ _

theorem closed_parametersText (parameters : Option (Phrase [')'])) :
    ')' ∉ parametersText parameters := by
  cases parameters with
  | none => exact List.not_mem_nil
  | some phrase => exact phrase.plain ')' (by simp)

theorem nonBlank?_parametersText (parameters : Option (Phrase [')'])) :
    nonBlank? (parametersText parameters) = parameters.map Phrase.text := by
  cases parameters with
  | none => rfl
  | some phrase =>
      have read : nonBlank? ([] ++ (phrase.text ++ [])) = some phrase.text :=
        nonBlank?_padded phrase.tidy (by simp) (by simp)
      rwa [List.nil_append, List.append_nil] at read

theorem type?_returnText (colonApart : Bool) (returnType : Option TypeText) :
    (((afterColon? (returnText colonApart returnType)).bind type?).map fun (type, _) =>
        String.ofList type) =
      returnType.map fun type => String.ofList type.text := by
  cases returnType with
  | none => rfl
  | some type =>
      rw [returnText, afterColon?_colon colonApart type.tidy, Option.bind_some, type.type?_spaced]
      rfl

/-- The line of a method makes the method. -/
theorem method?_text (operation : Operation) : method? operation.text = some operation.meaning := by
  rw [text, method?_parenthesis _ _ _ _ (closed_parametersText operation.parameters),
    nonBlank?_parametersText, type?_returnText, Option.map_map]
  rfl

end Operation

namespace Member

/-- A word with or without a comma is neither an attribute nor a method. -/
theorem member?_literal (word : Word) (comma : Bool) :
    member? (literal word comma).text = some (literal word comma).entry := by
  obtain ⟨rest, behind, shape⟩ :
      ∃ rest, (rest = [] ∨ rest = [',']) ∧ (literal word comma).text = word.text ++ rest := by
    cases comma with
    | true => exact ⟨[','], .inr rfl, rfl⟩
    | false => exact ⟨[], .inl rfl, rfl⟩
  have head : memberHead (word.text ++ rest) = (.publicAccess, none, word.text ++ rest) := by
    simp [memberHead, word.marker_append, word.modifier_append, Visibility.ofMarker]
  have read : word? (word.text ++ rest) = some (word.text, rest) := by
    apply word.word?_append
    rcases behind with rfl | rfl
    · simp
    · rintro char ⟨⟩
      decide
  have field : attribute? (word.text ++ rest) = none := by
    rw [attribute?, head]
    simp only [read]
    rcases behind with rfl | rfl
    · rfl
    · rfl
  have method : method? (word.text ++ rest) = none := by
    rw [method?, head]
    simp only [read]
    rcases behind with rfl | rfl
    · rfl
    · rfl
  have alone : literal? (word.text ++ rest) = some word.text := by
    rw [literal?, read]
    rcases behind with rfl | rfl
    · rfl
    · rfl
  rw [shape, member?, field, method, alone]
  rfl

/-- The line of a member makes the member. -/
theorem member?_text (member : Member) : member? member.text = some member.entry := by
  cases member with
  | field line =>
      rw [text, member?, line.attribute?_text]
      rfl
  | operation line =>
      rw [text, member?, line.attribute?_text, line.method?_text]
      rfl
  | literal word comma => exact member?_literal word comma

/-- No member begins like a declaration or a relationship. -/
theorem leadingWord?_text (member : Member) : leadingWord? member.text = none := by
  cases member with
  | field line =>
      apply leadingWord?_eq_none
      rintro char ⟨⟩
      exact isWord_marker line.visibility
  | operation line =>
      apply leadingWord?_eq_none
      rw [text, Operation.text]
      exact Operation.head_headText _ _ _ _
  | literal word comma =>
      cases comma with
      | true =>
          apply word.leadingWord?_alone
          · rintro char ⟨⟩
            decide
          · rintro char ⟨⟩
            decide
      | false => exact word.leadingWord?_alone (by simp) (by simp)

theorem entryOf?_text (member : Member) : entryOf? member.text = some member.entry := by
  rw [entryOf?_of_leadingWord? member.leadingWord?_text, member.member?_text]

end Member

/-! ## Declarations -/

section Keywords

variable {line rest : List Char}

/-- What the first words of a line say about a class. -/
theorem classHead?_of_leadingWord? {word : List Char}
    (read : leadingWord? line = some (word, rest)) :
    classHead? line =
      if word = classWord.text then some (false, rest)
      else if word = abstractWord.text then
        (leadingWord? rest).bind fun (further, behind) =>
          if further = classWord.text then some (true, behind) else none
      else none := by
  rw [classHead?, read]
  rfl

theorem isSome_read?_iff {word keyword : List Char} (read : leadingWord? line = some (word, rest)) :
    (Declaration.read? keyword line).isSome ↔
      word = keyword ∧ (Declaration.named? rest).isSome := by
  rw [Declaration.read?_of_leadingWord? read]
  by_cases same : word = keyword <;> simp [same]

/-- If its first word is not followed by another one that begins like `class`, a line
declares a class only by that word. -/
theorem isSome_class?_iff {word : List Char} (read : leadingWord? line = some (word, rest))
    (other : ∀ char ∈ rest.head?, char ≠ 'c') :
    (class? line).isSome ↔ word = classWord.text ∧ (Declaration.named? rest).isSome := by
  have noFurther : (leadingWord? rest).bind (fun (further, behind) =>
      if further = classWord.text then some (true, behind) else none) = none := by
    cases further : leadingWord? rest with
    | none => rfl
    | some found =>
        obtain ⟨second, behind⟩ := found
        have notClass : second ≠ classWord.text := by
          rintro rfl
          exact other 'c' (head?_of_leadingWord? further).symm rfl
        exact if_neg notClass
  rw [class?, classHead?_of_leadingWord? read, noFurther, ite_self]
  by_cases same : word = classWord.text
  · rw [if_pos same]
    cases named : Declaration.named? rest <;> simp [same, named]
  · simp [same]

/-- Such a line declares something if its first word is that of a declaration and a name
follows. -/
theorem isSome_declaration?_iff {word : List Char} (read : leadingWord? line = some (word, rest))
    (other : ∀ char ∈ rest.head?, char ≠ 'c') :
    (declaration? line).isSome ↔
      word ∈ [classWord.text, interfaceWord.text, enumWord.text] ∧
        (Declaration.named? rest).isSome := by
  have interfaces : (interface? line).isSome ↔
      word = interfaceWord.text ∧ (Declaration.named? rest).isSome := by
    rw [interface?, Option.isSome_map]
    exact isSome_read?_iff read
  have enumerations : (enumeration? line).isSome ↔
      word = enumWord.text ∧ (Declaration.named? rest).isSome := by
    rw [enumeration?, Option.isSome_map]
    exact isSome_read?_iff read
  simp only [declaration?, Option.orElse_eq_orElse, Option.orElse_eq_or, Option.isSome_or,
    Bool.or_eq_true, isSome_class?_iff read other, interfaces, enumerations, List.mem_cons,
    List.not_mem_nil, or_false, or_and_right]

end Keywords

/-- The text in front of the closing of a stereotype. -/
theorem untilClosing?_append {inner : List Char} (plain : '>' ∉ inner) (rest : List Char) :
    untilClosing? (inner ++ '>' :: '>' :: rest) = some inner := by
  induction inner with
  | nil => rfl
  | cons char inner ih =>
      simp only [List.mem_cons, not_or] at plain
      rw [List.cons_append, untilClosing?, ih plain.2]
      · rfl
      · rintro more rfl
        exact absurd rfl plain.1

namespace Declared

theorem tidy_stereotype (phrase : Phrase ['>']) :
    Tidy ('<' :: '<' :: (phrase.text ++ ['>', '>'])) := by
  have opening : Tidy ['<', '<'] := tidy_iff.2 (by decide)
  have closing : Tidy ['>', '>'] := tidy_iff.2 (by decide)
  exact opening.append (phrase.tidy.append closing)

theorem stereotype?_spaced (stereotype : Option (Phrase ['>'])) (opened : Bool) :
    stereotype? (spaced (stereotypePieces stereotype ++ bracePieces opened)) =
      stereotype.map Phrase.text := by
  cases stereotype with
  | none =>
      cases opened with
      | true => rfl
      | false => rfl
  | some phrase =>
      have plain : '>' ∉ phrase.text := phrase.plain '>' (by simp)
      have read : nonBlank? ([] ++ (phrase.text ++ [])) = some phrase.text :=
        nonBlank?_padded phrase.tidy (by simp) (by simp)
      obtain ⟨first, more, shape⟩ := List.exists_cons_of_ne_nil phrase.tidy.ne_nil
      have closing : untilClosing? (more ++ '>' :: '>' :: spaced (bracePieces opened)) =
          some more :=
        untilClosing?_append (by simp_all) _
      rw [stereotypePieces, List.singleton_append, stereotype?,
        trimStart_spaced (tidy_stereotype phrase)]
      simp_all

theorem tidy_furtherPieces (declared : Declared) :
    ∀ piece ∈ declared.furtherPieces, Tidy piece ∧ ∀ char ∈ piece.head?, isWord char = false := by
  intro piece member
  rcases List.mem_append.1 member with stereotype | brace
  · cases shape : declared.keyword.stereotype with
    | none => simp [shape, stereotypePieces] at stereotype
    | some phrase =>
        simp only [shape, stereotypePieces, List.mem_singleton] at stereotype
        subst stereotype
        refine ⟨tidy_stereotype phrase, ?_⟩
        rintro char ⟨⟩
        decide
  · cases shape : declared.opened with
    | false => simp [shape, bracePieces] at brace
    | true =>
        simp only [shape, bracePieces, if_true, List.mem_singleton] at brace
        subst brace
        refine ⟨tidy_iff.2 (by decide), ?_⟩
        rintro char ⟨⟩
        decide

theorem tidy_namedText (declared : Declared) : Tidy declared.namedText := by
  apply tidy_spaced declared.name.tidy
  intro piece member
  rcases List.mem_append.1 member with aliased | further
  · exact tidy_aliasPieces piece aliased
  · exact (declared.tidy_furtherPieces piece further).1

theorem named?_namedText (declared : Declared) :
    Declaration.named? declared.namedText =
      some ⟨declared.name.text, declared.aliasWord.map Word.text,
        spaced declared.furtherPieces⟩ := by
  apply named?_spaced
  intro piece first
  exact declared.tidy_furtherPieces piece (List.mem_of_head? first)

/-- The name stands behind the first word of a declaration. -/
theorem leadingWord?_keyword (declared : Declared) (keyword : Word) :
    leadingWord? (keyword.text ++ spaced [declared.namedText]) =
      some (keyword.text, declared.namedText) := by
  have read := keyword.leadingWord?_spaced declared.tidy_namedText []
  rwa [spaced_nil, List.append_nil] at read

theorem read?_text (declared : Declared) {keyword : Word}
    (read : leadingWord? declared.text = some (keyword.text, declared.namedText)) :
    Declaration.read? keyword.text declared.text =
      some ⟨declared.name.text, declared.aliasWord.map Word.text,
        spaced declared.furtherPieces⟩ := by
  rw [Declaration.read?_of_leadingWord? read, if_pos rfl, named?_namedText]

theorem class?_classText (declared : Declared) {isAbstract : Bool}
    {stereotype : Option (Phrase ['>'])}
    (keyword : declared.keyword = .classifier isAbstract stereotype)
    (head : classHead? declared.text = some (isAbstract, declared.namedText)) :
    class? declared.text = some declared.meaning := by
  have further : stereotype? (spaced declared.furtherPieces) = stereotype.map Phrase.text := by
    rw [furtherPieces, keyword]
    exact stereotype?_spaced stereotype declared.opened
  simp [class?, head, named?_namedText, Declaration.element, further, meaning, keyword,
    Keyword.type, Keyword.isAbstract, Keyword.stereotype, Keyword.literals, Function.comp_def]

/-- A line that begins with the word of another declaration declares no
class. -/
theorem class?_eq_none (declared : Declared) {keyword : Word}
    (read : leadingWord? declared.text = some (keyword.text, declared.namedText))
    (notClass : keyword.text ≠ classWord.text) (notAbstract : keyword.text ≠ abstractWord.text) :
    class? declared.text = none := by
  rw [class?, classHead?_of_leadingWord? read, if_neg notClass, if_neg notAbstract]
  rfl

theorem classHead?_classText (declared : Declared) {isAbstract : Bool}
    {stereotype : Option (Phrase ['>'])}
    (keyword : declared.keyword = .classifier isAbstract stereotype) :
    classHead? declared.text = some (isAbstract, declared.namedText) := by
  rw [text, keyword]
  cases isAbstract with
  | false =>
      rw [keywordText, classHead?_of_leadingWord? (declared.leadingWord?_keyword classWord),
        if_pos rfl]
  | true =>
      have other : abstractWord.text ≠ classWord.text := by decide
      have further : leadingWord? (classWord.text ++ spaced [declared.namedText]) =
          some (classWord.text, declared.namedText) :=
        declared.leadingWord?_keyword classWord
      have read := abstractWord.leadingWord?_spaced classWord.tidy [declared.namedText]
      rw [keywordText, classHead?_of_leadingWord? read, if_neg other, if_pos rfl, further,
        Option.bind_some]
      exact if_pos rfl

/-- The line of a declaration declares the element. -/
theorem declaration?_text (declared : Declared) :
    declaration? declared.text = some declared.meaning := by
  cases keyword : declared.keyword with
  | classifier isAbstract stereotype =>
      rw [declaration?, declared.class?_classText keyword (declared.classHead?_classText keyword)]
      rfl
  | interface =>
      have read : leadingWord? declared.text = some (interfaceWord.text, declared.namedText) := by
        rw [text, keyword]
        exact declared.leadingWord?_keyword interfaceWord
      have found : interface? declared.text = some declared.meaning := by
        have named : Declaration.read? "interface".toList declared.text = some _ :=
          declared.read?_text read
        rw [interface?, named]
        simp [Declaration.element, meaning, keyword, Keyword.type, Keyword.isAbstract,
          Keyword.stereotype, Keyword.literals, Function.comp_def]
      rw [declaration?, declared.class?_eq_none read (by decide) (by decide), found]
      rfl
  | enumeration =>
      have read : leadingWord? declared.text = some (enumWord.text, declared.namedText) := by
        rw [text, keyword]
        exact declared.leadingWord?_keyword enumWord
      have other : enumWord.text ≠ "interface".toList := by decide
      have found : enumeration? declared.text = some declared.meaning := by
        have named : Declaration.read? "enum".toList declared.text = some _ :=
          declared.read?_text read
        rw [enumeration?, named]
        simp [Declaration.element, meaning, keyword, Keyword.type, Keyword.isAbstract,
          Keyword.stereotype, Keyword.literals, Function.comp_def]
      rw [declaration?, declared.class?_eq_none read (by decide) (by decide), interface?,
        Declaration.read?_of_leadingWord? read, if_neg other, found]
      rfl

end Declared

/-! ## Relationships -/

/-- A shaft is read up to an adornment or a blank. -/
theorem Shaft.shaft?_append (shaft : Shaft) {rest : List Char}
    (stop : ∀ char ∈ rest.head?, char ≠ '-' ∧ char ≠ '.') :
    AdornedConnector.shaft? (shaft.text ++ rest) = some (shaft.text, rest) := by
  cases shaft with
  | dashes more =>
      have run : run? (· == '-') (List.replicate (more + 1) '-' ++ rest) =
          some (List.replicate (more + 1) '-', rest) := by
        apply run?_append (by simp)
        · intro char member
          simp [List.eq_of_mem_replicate member]
        · intro char starts
          simpa using (stop char starts).1
      exact run
  | dots more =>
      have run : run? (· == '.') (List.replicate (more + 2) '.' ++ rest) =
          some (List.replicate (more + 2) '.', rest) := by
        apply run?_append (by simp)
        · intro char member
          simp [List.eq_of_mem_replicate member]
        · intro char starts
          simpa using (stop char starts).2
      exact run

theorem Shaft.forall_mem (shaft : Shaft) : ∀ char ∈ shaft.text, char = '-' ∨ char = '.' := by
  intro char member
  cases shaft with
  | dashes more => exact .inl (List.eq_of_mem_replicate member)
  | dots more => exact .inr (List.eq_of_mem_replicate member)

/-- A shaft has no blanks. -/
theorem ne_shaft_of_isBlank {char : Char} (blank : isBlank char = true) :
    char ≠ '-' ∧ char ≠ '.' := by
  constructor
  · rintro rfl
    exact absurd blank (by decide)
  · rintro rfl
    exact absurd blank (by decide)

namespace Glyph

/-- The characters that connectors are drawn with. -/
theorem mem_drawn (glyph : Glyph) :
    ∀ char ∈ glyph.connector.text,
      char ∈ AdornedConnector.leftAdornments ++ AdornedConnector.rightAdornments ++ ['-', '.'] := by
  intro char member
  simp only [connector, AdornedConnector.text, List.mem_append] at member
  simp only [List.mem_append]
  rcases member with (left | shaft) | right
  · exact .inl (.inl (glyph.leftAdorns char left))
  · rcases glyph.shaft.forall_mem char shaft with rfl | rfl
    · exact .inr (by decide)
    · exact .inr (by decide)
  · exact .inl (.inr (glyph.rightAdorns char right))

/-- The characters of a connector: none is blank or a quote, and none begins the
word `class`. -/
theorem visible (glyph : Glyph) :
    ∀ char ∈ glyph.connector.text, isBlank char = false ∧ char ≠ '"' ∧ char ≠ 'c' := by
  have drawn :
      ∀ char ∈ AdornedConnector.leftAdornments ++ AdornedConnector.rightAdornments ++ ['-', '.'],
        isBlank char = false ∧ char ≠ '"' ∧ char ≠ 'c' :=
    List.all_iff_forall_prop.1 (by decide)
  exact fun char member => drawn char (glyph.mem_drawn char member)

theorem ne_nil (glyph : Glyph) : glyph.connector.text ≠ [] := by
  cases shape : glyph.shaft with
  | dashes more => simp [connector, AdornedConnector.text, shape, Shaft.text]
  | dots more => simp [connector, AdornedConnector.text, shape, Shaft.text]

theorem tidy (glyph : Glyph) : Tidy glyph.connector.text :=
  tidy_of_forall glyph.ne_nil fun char member => (glyph.visible char member).1

/-- A connector is read up to the blank behind it. -/
theorem read?_append (glyph : Glyph) {rest : List Char}
    (blank : ∀ char ∈ rest.head?, isBlank char = true) :
    AdornedConnector.read? (glyph.connector.text ++ rest) = some (glyph.connector, rest) := by
  have left : ∀ char ∈ glyph.left, AdornedConnector.leftAdornments.contains char = true :=
    fun char member => List.contains_iff_mem.2 (glyph.leftAdorns char member)
  have right : ∀ char ∈ glyph.right, AdornedConnector.rightAdornments.contains char = true :=
    fun char member => List.contains_iff_mem.2 (glyph.rightAdorns char member)
  have shaftFirst : ∀ char ∈ (glyph.shaft.text ++ (glyph.right ++ rest)).head?,
      AdornedConnector.leftAdornments.contains char = false := by
    cases glyph.shaft with
    | dashes more =>
        rintro char ⟨⟩
        decide
    | dots more =>
        rintro char ⟨⟩
        decide
  have rightFirst : ∀ char ∈ (glyph.right ++ rest).head?, char ≠ '-' ∧ char ≠ '.' := by
    have outside : ∀ char ∈ AdornedConnector.rightAdornments, char ≠ '-' ∧ char ≠ '.' :=
      List.all_iff_forall_prop.1 (by decide)
    intro char member
    cases shape : glyph.right with
    | nil =>
        rw [shape, List.nil_append] at member
        exact ne_shaft_of_isBlank (blank char member)
    | cons first more =>
        rw [shape] at member
        cases member
        exact outside char (glyph.rightAdorns char (by simp [shape]))
  have blankFirst : ∀ char ∈ rest.head?,
      AdornedConnector.rightAdornments.contains char = false := by
    have visible : ∀ char ∈ AdornedConnector.rightAdornments, isBlank char = false :=
      List.all_iff_forall_prop.1 (by decide)
    intro char member
    cases adorns : AdornedConnector.rightAdornments.contains char with
    | false => rfl
    | true =>
        have seen := visible char (List.contains_iff_mem.1 adorns)
        exact absurd (seen.symm.trans (blank char member)) Bool.false_ne_true
  have shaft := glyph.shaft.shaft?_append rightFirst
  simp [AdornedConnector.read?, connector, AdornedConnector.text,
    takeWhile_run_append left shaftFirst, dropWhile_run_append left shaftFirst, shaft,
    takeWhile_run_append right blankFirst, dropWhile_run_append right blankFirst]

theorem read?_spaced (glyph : Glyph) (pieces : List (List Char)) :
    AdornedConnector.read? (glyph.connector.text ++ spaced pieces) =
      some (glyph.connector, spaced pieces) :=
  glyph.read?_append (isBlank_head_spaced pieces)

end Glyph

namespace Link

/-! ### The parts of a relationship -/

theorem skipQuoted?_written (quote : Quote) {piece : List Char} (tidy : Tidy piece)
    (pieces : List (List Char)) :
    skipQuoted? (quote.written ++ spaced (piece :: pieces)) = some (piece ++ spaced pieces) := by
  have read := quote.upTo?_written (spaced (piece :: pieces))
  rw [Quote.written, List.cons_append, skipQuoted?, read]
  exact gap?_spaced tidy pieces

theorem skipQuoted?_eq_self {text : List Char} (plain : ∀ char ∈ text.head?, char ≠ '"') :
    skipQuoted? text = some text := by
  unfold skipQuoted?
  split
  · exact absurd rfl (plain '"' rfl)
  · rfl

/-- A piece is reached across the gap and a quoted text in front of it. -/
theorem skipQuoted?_of_gap? (quote : Option Quote) {piece : List Char} (tidy : Tidy piece)
    (plain : ∀ char ∈ piece.head?, char ≠ '"') (pieces : List (List Char)) :
    ∃ behind, gap? (spaced (quotePieces quote ++ piece :: pieces)) = some behind ∧
      skipQuoted? behind = some (piece ++ spaced pieces) ∧
      (behind.head? = some '"' ∨ behind.head? = piece.head?) := by
  obtain ⟨first, more, rfl⟩ := List.exists_cons_of_ne_nil tidy.ne_nil
  cases quote with
  | some quote =>
      exact ⟨_, gap?_spaced quote.tidy (_ :: pieces), skipQuoted?_written quote tidy pieces,
        .inl rfl⟩
  | none => exact ⟨_, gap?_spaced tidy pieces, skipQuoted?_eq_self plain, .inr rfl⟩

/-- The source leads the line, and behind it neither the connector nor a quoted
text begins like the word `class`. -/
theorem exists_leadingWord?_text (link : Link) :
    ∃ behind, leadingWord? link.text = some (link.source.text, behind) ∧
      skipQuoted? behind =
        some (link.glyph.connector.text ++ spaced (quotePieces link.ends.second ++
          link.target.text :: labelPieces link.label)) ∧
      ∀ char ∈ behind.head?, char ≠ 'c' := by
  have glyph : ∀ char ∈ link.glyph.connector.text.head?, char ≠ '"' ∧ char ≠ 'c' :=
    fun char member => (link.glyph.visible char (List.mem_of_head? member)).2
  obtain ⟨behind, gap, skip, start⟩ := skipQuoted?_of_gap? link.ends.first link.glyph.tidy
    (fun char member => (glyph char member).1)
    (quotePieces link.ends.second ++ link.target.text :: labelPieces link.label)
  refine ⟨behind, ?_, skip, ?_⟩
  · simp [leadingWord?, text, link.source.word?_spaced, gap]
  · intro char member
    rcases start with quote | same
    · rw [quote] at member
      cases member
      decide
    · rw [same] at member
      exact (glyph char member).2

theorem relationshipParts?_text (link : Link) :
    relationshipParts? link.text =
      some ⟨link.source.text, link.glyph.connector, link.target.text,
        link.label.map Phrase.text⟩ := by
  obtain ⟨behindSource, source, skipSource, -⟩ := link.exists_leadingWord?_text
  have plain : ∀ char ∈ link.target.text.head?, char ≠ '"' := by
    rintro char member rfl
    have outside : isWord '"' = false := by decide
    exact link.target.notMem outside (List.mem_of_head? member)
  obtain ⟨behindGlyph, gap, skipTarget, -⟩ := skipQuoted?_of_gap? link.ends.second link.target.tidy
    plain (labelPieces link.label)
  simp [relationshipParts?, source, skipSource, link.glyph.read?_spaced, gap, skipTarget,
    link.target.word?_spaced, label?_spaced]

/-! ### The cardinalities of a relationship -/

theorem quotedTexts_eq_nil {text : List Char} (plain : '"' ∉ text) :
    quotedTexts none text = [] := by
  induction text with
  | nil => rfl
  | cons char text ih =>
      simp only [List.mem_cons, not_or] at plain
      simp [quotedTexts, Ne.symm plain.1, ih plain.2]

theorem quotedTexts_append {text : List Char} (plain : '"' ∉ text) (rest : List Char) :
    quotedTexts none (text ++ rest) = quotedTexts none rest := by
  induction text with
  | nil => rfl
  | cons char text ih =>
      simp only [List.mem_cons, not_or] at plain
      simp [quotedTexts, Ne.symm plain.1, ih plain.2]

/-- A quoted text ends at the next quote, unless it is empty. -/
theorem quotedTexts_inside {text : List Char} (plain : '"' ∉ text) (before rest : List Char)
    (nonempty : before.reverse ++ text ≠ []) :
    quotedTexts (some before) (text ++ '"' :: rest) =
      (before.reverse ++ text) :: quotedTexts none rest := by
  induction text generalizing before with
  | nil =>
      cases before with
      | nil => contradiction
      | cons last others => simp [quotedTexts]
  | cons char text ih =>
      simp only [List.mem_cons, not_or] at plain
      have further := ih plain.2 (char :: before) (by simp)
      simpa [quotedTexts, Ne.symm plain.1] using further

theorem quotedTexts_spaced (quote : Option Quote) (pieces : List (List Char)) :
    quotedTexts none (spaced (quotePieces quote ++ pieces)) =
      quote.toList.map Quote.text ++ quotedTexts none (spaced pieces) := by
  cases quote with
  | none => rfl
  | some quote =>
      have found := quotedTexts_inside quote.plain [] (spaced pieces) quote.nonempty
      simpa [quotePieces, spaced_cons, Quote.written, quotedTexts] using found

/-- The quoted texts of the line are the cardinalities and what else is quoted in
the label. -/
theorem quotedTexts_text (link : Link) :
    quotedTexts none link.text =
      link.ends.first.toList.map Quote.text ++
        (link.ends.second.toList.map Quote.text ++
          quotedTexts none (spaced (labelPieces link.label))) := by
  have outside : isWord '"' = false := by decide
  have glyph : '"' ∉ ' ' :: link.glyph.connector.text := by
    intro member
    rcases List.mem_cons.1 member with same | member
    · contradiction
    · exact (link.glyph.visible '"' member).2.1 rfl
  have target : '"' ∉ ' ' :: link.target.text := by
    intro member
    rcases List.mem_cons.1 member with same | member
    · contradiction
    · exact link.target.notMem outside member
  rw [text, quotedTexts_append (link.source.notMem outside), quotedTexts_spaced, spaced_cons,
    ← List.cons_append, quotedTexts_append glyph, quotedTexts_spaced, spaced_cons,
    ← List.cons_append, quotedTexts_append target]

/-- A label that may count as a cardinality has no quotes. -/
theorem quotedTexts_label (link : Link) (unmarked : link.ends.second = none) :
    quotedTexts none (spaced (labelPieces link.label)) = [] := by
  have reserved : '"' ∈ link.ends.reserved := by
    cases shape : link.ends with
    | unmarked => simp [Ends.reserved]
    | source quote => simp [Ends.reserved]
    | both quote other => simp [shape, Ends.second] at unmarked
  cases link.label with
  | none => rfl
  | some phrase =>
      apply quotedTexts_eq_nil
      have plain := phrase.plain '"' reserved
      simpa [labelPieces, spaced_cons] using plain

/-- The first quoted texts of the line are the cardinalities. -/
theorem quotedCardinality_text (link : Link) :
    quotedCardinality link.text 0 =
        link.ends.first.map (fun quote => Cardinality.ofText (String.ofList quote.text)) ∧
      quotedCardinality link.text 1 =
        link.ends.second.map fun quote => Cardinality.ofText (String.ofList quote.text) := by
  rw [quotedCardinality, quotedCardinality, link.quotedTexts_text]
  have label := link.quotedTexts_label
  generalize quotedTexts none (spaced (labelPieces link.label)) = others at label ⊢
  cases shape : link.ends with
  | unmarked =>
      rw [shape] at label
      rw [label rfl]
      exact ⟨rfl, rfl⟩
  | source quote =>
      rw [shape] at label
      rw [label rfl]
      exact ⟨rfl, rfl⟩
  | both quote other => exact ⟨rfl, rfl⟩

/-- The line of a relationship states the relationship. -/
theorem relationship?_text (link : Link) : relationship? link.text = some link.meaning := by
  obtain ⟨first, second⟩ := link.quotedCardinality_text
  simp [relationship?, relationshipParts?_text, meaning, first, second, Function.comp_def]

/-- No relationship begins like a declaration: a connector behind `abstract` is not the
word `class`, even if it begins with letters. -/
theorem declaration?_text (link : Link) : declaration? link.text = none := by
  obtain ⟨behind, read, -, other⟩ := link.exists_leadingWord?_text
  rw [← Option.not_isSome_iff_eq_none, isSome_declaration?_iff read other]
  exact fun declares => link.undeclaring declares.1

theorem entryOf?_text (link : Link) : entryOf? link.text = some (.relationship link.meaning) := by
  rw [entryOf?, link.declaration?_text, link.relationship?_text]
  rfl

end Link

end DiagramGraph.Written
