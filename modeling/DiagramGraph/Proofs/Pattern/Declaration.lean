import DiagramGraph.Proofs.Pattern.Rule

/-!
# Declarations as patterns

The declarations of all kinds of diagrams, as patterns with the groups from which the
elements are made: names, aliases, roles, and for classes whether they are abstract and
what their stereotype is.
-/

namespace DiagramGraph

open DiagramGraph.Text DiagramGraph.Pattern

/-! ## What is made of a declaration -/

/-- The element that two groups name. -/
def Captures.declared (captures : Captures) (number other : Nat) (type : String) :
    Except Fault Element := do
  let name ← captures.text number
  return {
    type
    name := String.ofList (unquote name)
    aliasName := (captures.optional other).map String.ofList }

/-- A declaration without the quotes of its name. -/
def Declaration.unquoted (written : Declaration) : Declaration :=
  { written with name := unquote written.name }

theorem Captures.Sets.exists_declared {captures : Captures} {numbers : List Nat}
    (sets : captures.Sets numbers) (number other : Nat) (type : String)
    (member : number ∈ numbers) :
    ∃ declared, captures.declared number other type = .ok declared := by
  obtain ⟨name, read⟩ := sets.exists_text number member
  rw [Captures.declared, read]
  exact ⟨_, rfl⟩

theorem nonBlank?_word {word : List Char} (run : IsWordRun word) : nonBlank? word = some word :=
  nonBlank?_tidy (tidy_of_forall run.nonempty fun char member =>
    isBlank_eq_false_of_isWord (run.word char member))

/-- An alias is a word, so nothing of it is trimmed. -/
theorem nonBlank?_aliasName {text : List Char} {written : Declaration}
    (read : writtenNamed? text = some written) :
    written.aliasName.bind nonBlank? = written.aliasName := by
  obtain ⟨named, -, rfl⟩ := Option.map_eq_some_iff.1 read
  cases introduced : aliasName? named.2 with
  | none => rfl
  | some found => exact nonBlank?_word (aliasName?_eq introduced).1

/-- The groups of a declaration make its element. -/
theorem Captures.declared_eq {captures : Captures} {number other : Nat} {text : List Char}
    {written : Declaration} (read : writtenNamed? text = some written)
    (name : captures.lookup number = some written.name)
    (aliasName : captures.lookup other = written.aliasName) (type : String) :
    captures.declared number other type = .ok (written.unquoted.element type) := by
  rw [Captures.declared, Captures.text_eq_ok name, Captures.optional, aliasName,
    nonBlank?_aliasName read]
  rfl

/-! ## Declarations with a keyword -/

namespace Pattern

/-- A keyword, a name and possibly an alias:
`^keyword\s+("[^"]+"|\w+)(?:\s+as\s+(\w+))?`. -/
def declaration (keyword : List Char) : Pattern :=
  inOrder [literal keyword, gap, group 1 name, optional (aliasPart 2)]

theorem apart_name (number : Nat) {patterns : List Pattern} :
    (inOrder (group number name :: patterns)).Apart isBlank := by
  refine apart_group number (apart_cons rfl fun char blank => ?_)
  have noQuote : (char == '"') = false := separate_mark (by decide) char blank
  simp [name, quotedName, word, run, inOrder, mark, starts, nullable, noQuote,
    isWord_eq_false_of_isBlank blank]

/-- The written declaration of a line that begins with a keyword. -/
def writtenRead? (keyword line : List Char) : Option Declaration :=
  (leadingWord? line).bind fun read => if read.1 = keyword then writtenNamed? read.2 else none

theorem read?_eq (keyword line : List Char) :
    Declaration.read? keyword line = (writtenRead? keyword line).map Declaration.unquoted := by
  rw [Declaration.read?, writtenRead?]
  cases leadingWord? line with
  | none => rfl
  | some read =>
      dsimp only [Option.bind_eq_bind, Option.bind_some]
      split
      · exact named?_eq read.2
      · rfl

theorem captures?_declaration {keyword : List Char} (run : IsWordRun keyword) (line : List Char) :
    (declaration keyword).captures? line =
      (writtenRead? keyword line).map fun written =>
        (1, written.name) :: captured 2 written.aliasName := by
  rw [captures?_eq_first, declaration, first_keyword_cons run (apart_name 1), writtenRead?,
    Option.map_bind]
  refine Option.bind_congr fun read _ => ?_
  rw [Function.comp_apply]
  split
  · rw [first_named_cons 1 2 total_nil fun _ _ => rfl, Option.map_eq_bind]
    refine Option.bind_congr fun written _ => ?_
    rw [first_inOrder_nil, List.append_nil]
    rfl
  · rfl

end Pattern

/-- The rule for declarations with a keyword. -/
def declarationRule (keyword : List Char) (type : String) : Rule Element where
  pattern := declaration keyword
  needed := [1]
  make _ captures := captures.declared 1 2 type
  certain := by simp [declaration, inOrder, Pattern.certain]
  makes := fun _ _ sets => sets.exists_declared 1 2 type (by decide)

theorem writtenNamed?_of_writtenRead? {keyword line : List Char} {written : Declaration}
    (read : writtenRead? keyword line = some written) :
    ∃ text, writtenNamed? text = some written := by
  obtain ⟨leading, -, named⟩ := Option.bind_eq_some_iff.1 read
  split at named
  · exact ⟨leading.2, named⟩
  · contradiction

theorem agrees_declarationRule {keyword : List Char} (run : IsWordRun keyword) (type : String) :
    (declarationRule keyword type).Agrees fun line =>
      (Declaration.read? keyword line).map fun declaration => declaration.element type := by
  intro line _
  dsimp only
  rw [read?_eq, Option.map_map]
  refine Rule.read_eq (captures?_declaration run line) fun written member => ?_
  obtain ⟨text, read⟩ := writtenNamed?_of_writtenRead? member
  refine Captures.declared_eq read rfl ?_ type
  cases written.aliasName <;> rfl

/-! ## Classes -/

namespace Pattern

/-- Anything between `<<` and the next `>>`, with blanks allowed in front of it:
`\s*<<(.+?)>>`. -/
def stereotype : Pattern :=
  inOrder [blanks, literal ['<', '<'],
    group 4 (inOrder [one (isOther '\n'), fewest (isOther '\n')]), literal ['>', '>']]

/-- A class, with its groups for the word `abstract`, the name, the alias and the
stereotype:
`^(abstract\s+)?class\s+("[^"]+"|\w+)(?:\s+as\s+(\w+))?(?:\s*<<(.+?)>>)?`. -/
def classDeclaration : Pattern :=
  inOrder [optional (group 1 (inOrder [literal "abstract".toList, gap])),
    literal "class".toList, gap, group 2 name, optional (aliasPart 3), optional stereotype]

section Fewest

variable {α : Type} {next : Captures → List Char → Option α} {text : List Char}

theorem first_fewest_nil (belongs : Char → Bool) :
    (fewest belongs).first next [] = next [] [] := by
  simp [first, ways, leftovers]

/-- A shortest run goes on only if nothing else does. -/
theorem first_fewest_cons (belongs : Char → Bool) (char : Char) (rest : List Char) :
    (fewest belongs).first next (char :: rest) =
      (next [] (char :: rest) <|>
        if belongs char then (fewest belongs).first next rest else none) := by
  rw [first, ways, leftovers]
  split
  · rw [List.reverse_append, List.reverse_singleton, List.singleton_append, List.map_cons,
      List.findSome?_cons]
    cases next [] (char :: rest) <;> rfl
  · simp

theorem untilClosing?_cons (char : Char) (rest : List Char) :
    ClassLine.untilClosing? (char :: rest) =
      if (after? ['>', '>'] (char :: rest)).isSome then some []
      else (ClassLine.untilClosing? rest).map (char :: ·) := by
  split
  · next closes =>
      obtain ⟨behind, closed⟩ := Option.isSome_iff_exists.1 closes
      rw [after?_eq_some_iff.1 closed]
      rfl
  · next open_ =>
      rw [ClassLine.untilClosing?]
      rintro behind ⟨⟩ rfl
      exact open_ rfl

/-- The shortest run in front of `>>` is what stands in front of the first `>>`. -/
theorem first_fewest_closing (single : '\n' ∉ text) (front : List Char)
    (made : List Char → Captures → α) :
    (fewest (isOther '\n')).first
        (fun captures behind =>
          (after? ['>', '>'] behind).map fun _ => made (taken (front ++ text) behind) captures)
        text =
      (ClassLine.untilClosing? text).map fun inner => made (front ++ inner) [] := by
  induction text generalizing front with
  | nil => rw [first_fewest_nil]; rfl
  | cons char rest ih =>
      obtain ⟨here, others⟩ : char ≠ '\n' ∧ '\n' ∉ rest := by simpa [eq_comm] using single
      rw [first_fewest_cons, if_pos (by simpa [isOther] using here), untilClosing?_cons]
      cases closes : after? ['>', '>'] (char :: rest) with
      | some behind => simp [taken_append]
      | none =>
          have later := ih others (front ++ [char])
          rw [List.append_assoc, List.singleton_append] at later
          simp only [Option.map_none, later, Option.isSome_none, Bool.false_eq_true, if_false,
            Option.map_map, Function.comp_def, List.append_assoc, List.singleton_append]
          rfl

/-- A stereotype as it is written. -/
def writtenStereotype? (text : List Char) : Option (List Char) :=
  (after? ['<', '<'] (trimStart text)).bind fun rest =>
    rest.head?.bind fun first => (ClassLine.untilClosing? rest.tail).map (first :: ·)

theorem captures?_stereotype (single : '\n' ∉ text) :
    stereotype.captures? text = (writtenStereotype? text).map fun found => [(4, found)] := by
  have apart (patterns : List Pattern) :
      (inOrder (literal ['<', '<'] :: patterns)).Apart isBlank := apart_literal (by decide)
  rw [captures?_eq_first, stereotype, first_blanks_cons (apart _), first_literal_cons,
    writtenStereotype?, Option.map_bind]
  refine Option.bind_congr fun rest opened => ?_
  have suffix := (suffix_of_after? opened).trans (suffix_of_trimStart text)
  have singleRest := single_of_suffix suffix single
  rw [first_inOrder_cons, first_group, first_inOrder_cons]
  cases rest with
  | nil => rfl
  | cons first more =>
      obtain ⟨here, others⟩ : first ≠ '\n' ∧ '\n' ∉ more := by simpa [eq_comm] using singleRest
      rw [first_one_cons, if_pos (by simpa [isOther] using here), first_inOrder_singleton]
      simp only [first_inOrder_singleton, first_literal]
      have closing := first_fewest_closing others [first] fun found captures =>
        (4, found) :: captures
      simpa [Option.map_eq_bind, Option.bind_assoc] using closing

theorem stereotype?_eq (text : List Char) :
    ClassLine.stereotype? text = (writtenStereotype? text).bind nonBlank? := by
  rw [ClassLine.stereotype?, writtenStereotype?]
  split
  · next first rest shape =>
      rw [shape]
      simp [after?, Option.bind_map]
  · next other =>
      rw [eq_comm, Option.bind_eq_none_iff]
      intro found read
      obtain ⟨rest, opened, read⟩ := Option.bind_eq_some_iff.1 read
      obtain ⟨first, starts, -⟩ := Option.bind_eq_some_iff.1 read
      obtain ⟨more, rfl⟩ := List.head?_eq_some_iff.1 starts
      exact absurd (after?_eq_some_iff.1 opened) (other first more)

end Fewest

/-- The keywords of a class: the word `abstract` with the gap behind it, if it is there,
and the text behind the keywords. -/
def writtenHead? (text : List Char) : Option (Option (List Char) × List Char) :=
  (leadingWord? text).bind fun read =>
    if read.1 = "class".toList then some (none, read.2)
    else if read.1 = "abstract".toList then
      (leadingWord? read.2).bind fun again =>
        if again.1 = "class".toList then some (some (taken text read.2), again.2) else none
    else none

theorem classHead?_eq (text : List Char) :
    ClassLine.classHead? text =
      (writtenHead? text).map fun head => (head.1.isSome, head.2) := by
  rw [ClassLine.classHead?, writtenHead?]
  cases leadingWord? text with
  | none => rfl
  | some read =>
      dsimp only [Option.bind_eq_bind, Option.bind_some]
      split
      · rfl
      · split
        · cases leadingWord? read.2 with
          | none => rfl
          | some again =>
              dsimp only [Option.bind_eq_bind, Option.bind_some]
              split <;> rfl
        · rfl

theorem first_classHead_cons {α : Type} {next : Captures → List Char → Option α} {text : List Char}
    {patterns : List Pattern} (apart : (inOrder patterns).Apart isBlank) :
    (inOrder (optional (group 1 (inOrder [literal "abstract".toList, gap])) ::
        literal "class".toList :: gap :: patterns)).first next text =
      (writtenHead? text).bind fun head =>
        (inOrder patterns).first (fun more => next (captured 1 head.1 ++ more)) head.2 := by
  have isKeyword : IsWordRun "class".toList := by decide
  have isPrefix : IsWordRun "abstract".toList := by decide
  have apartKeyword : (inOrder (literal "class".toList :: gap :: patterns)).Apart isBlank :=
    apart_literal (by decide)
  rw [first_inOrder_cons, first_optional, first_group, first_keyword isPrefix, writtenHead?,
    first_keyword_cons isKeyword apart]
  · simp only [first_keyword_cons isKeyword apart]
    cases leadingWord? text with
    | none => rfl
    | some read =>
        simp only [Option.bind_some]
        by_cases keyword : read.1 = "class".toList
        · have other : read.1 ≠ "abstract".toList := by rw [keyword]; decide
          rw [if_pos keyword, if_pos keyword, if_neg other]
          rfl
        · rw [if_neg keyword, if_neg keyword, Option.or_none]
          split
          · cases leadingWord? read.2 with
            | none => rfl
            | some again =>
                simp only [Option.bind_some]
                split <;> rfl
          · rfl
  · exact fun captures char rest member => first_eq_none (apartKeyword.ways_eq member rest)

/-- A class declaration in parts, as it is written. -/
def writtenClass? (line : List Char) : Option (Option (List Char) × Declaration) :=
  (writtenHead? line).bind fun head =>
    (writtenNamed? head.2).map fun written => (head.1, written)

theorem class?_eq (line : List Char) :
    ClassLine.class? line =
      (writtenClass? line).map fun parts =>
        { parts.2.unquoted.element "Class" with
          isAbstract := some parts.1.isSome
          stereotype := ((writtenStereotype? parts.2.rest).bind nonBlank?).map String.ofList } := by
  rw [ClassLine.class?, classHead?_eq, writtenClass?]
  cases writtenHead? line with
  | none => rfl
  | some head =>
      dsimp only [Option.map_some, Option.bind_eq_bind, Option.bind_some]
      rw [named?_eq]
      cases writtenNamed? head.2 with
      | none => rfl
      | some written =>
          dsimp only [Option.map_some, Option.bind_some]
          rw [stereotype?_eq]
          rfl

/-- What stands behind a class declaration is a part of the line. -/
theorem suffix_of_writtenClass? {line : List Char} {parts : Option (List Char) × Declaration}
    (read : writtenClass? line = some parts) (single : '\n' ∉ line) : parts.2.rest <:+ line := by
  obtain ⟨head, reading, read⟩ := Option.bind_eq_some_iff.1 read
  obtain ⟨written, named, rfl⟩ := Option.map_eq_some_iff.1 read
  have suffix : head.2 <:+ line :=
    ClassLine.suffix_of_classHead? (by rw [classHead?_eq, reading]; rfl)
  have namedUnquoted : Declaration.named? head.2 = some written.unquoted := by
    rw [named?_eq, named]
    rfl
  have behind : written.unquoted.rest <:+ head.2 :=
    Declaration.suffix_of_named? namedUnquoted (single_of_suffix suffix single)
  exact behind.trans suffix

theorem captures?_classDeclaration {line : List Char} (single : '\n' ∉ line) :
    classDeclaration.captures? line =
      (writtenClass? line).map fun parts =>
        captured 1 parts.1 ++ (2, parts.2.name) ::
          (captured 3 parts.2.aliasName ++ captured 4 (writtenStereotype? parts.2.rest)) := by
  rw [captures?_eq_first, classDeclaration, first_classHead_cons (apart_name 2)]
  have total := total_cons (total_optional stereotype) total_nil
  cases reading : writtenHead? line with
  | none => simp [writtenClass?, reading]
  | some head =>
      rw [Option.bind_some, first_named_cons 2 3 total fun _ _ => rfl]
      cases named : writtenNamed? head.2 with
      | none => simp [writtenClass?, reading, named]
      | some written =>
          have read : writtenClass? line = some (head.1, written) := by
            simp [writtenClass?, reading, named]
          have singleRest := single_of_suffix (suffix_of_writtenClass? read single) single
          rw [Option.bind_some, first_optional_last fun more =>
            captured 1 head.1 ++ (2, written.name) :: (captured 3 written.aliasName ++ more),
            captures?_stereotype singleRest, read]
          cases found : writtenStereotype? written.rest <;> simp [captured, found]

end Pattern

/-- The rule for classes. -/
def classRule : Rule Element where
  pattern := classDeclaration
  needed := [2]
  make _ captures := do
    let declared ← captures.declared 2 3 "Class"
    return { declared with
      isAbstract := some (captures.lookup 1).isSome
      stereotype := (captures.optional 4).map String.ofList }
  certain := by simp [classDeclaration, inOrder, Pattern.certain]
  makes := by
    intro _ captures sets
    obtain ⟨declared, made⟩ := sets.exists_declared 2 3 "Class" (by decide)
    rw [made]
    exact ⟨_, rfl⟩

theorem agrees_classRule : classRule.Agrees ClassLine.class? := by
  intro line single
  rw [class?_eq]
  refine Rule.read_eq (captures?_classDeclaration single) fun parts member => ?_
  obtain ⟨head, -, read⟩ := Option.bind_eq_some_iff.1 member
  obtain ⟨written, named, rfl⟩ := Option.map_eq_some_iff.1 read
  dsimp only [classRule]
  rw [Captures.declared_eq named]
  · cases head.1 <;> cases written.aliasName <;> cases writtenStereotype? written.rest <;> rfl
  · cases head.1 <;> rfl
  · cases head.1 <;> cases written.aliasName <;> cases writtenStereotype? written.rest <;> rfl

/-- The rules for the declarations of class diagrams. -/
def classDeclarationRules : List (Rule Element) :=
  [ classRule,
    declarationRule "interface".toList "Interface",
    (declarationRule "enum".toList "Enum").map fun declared => { declared with values := some [] } ]

theorem agree_classDeclarationRules :
    AgreeInOrder classDeclarationRules ClassLine.declaration? := by
  have interface : IsWordRun "interface".toList := by decide
  have enumeration : IsWordRun "enum".toList := by decide
  have enumerations : ((declarationRule "enum".toList "Enum").map fun declared =>
      { declared with values := some [] }).Agrees ClassLine.enumeration? := by
    have plain := (agrees_declarationRule enumeration "Enum").map fun declared =>
      { declared with values := some [] }
    intro line single
    rw [plain line single, ClassLine.enumeration?]
    dsimp only
    rw [Option.map_map]
    rfl
  exact agreeInOrder_cons agrees_classRule
    (agreeInOrder_cons (agrees_declarationRule interface "Interface")
      (agreeInOrder_singleton enumerations))

/-! ## Entities, actors and use cases -/

/-- The rules for the declarations of entity diagrams. -/
def entityDeclarationRules : List (Rule Element) :=
  [declarationRule "entity".toList "Entity"]

theorem agree_entityDeclarationRules : AgreeInOrder entityDeclarationRules EntityLine.entity? := by
  have entity : IsWordRun "entity".toList := by decide
  exact agreeInOrder_singleton (agrees_declarationRule entity "Entity")

/-- The keywords of a table are tried one after the other. -/
theorem Declaration.readAny?_cons (keyword type : String) (table : List (String × String))
    (line : List Char) :
    readAny? ((keyword, type) :: table) line =
      ((read? keyword.toList line).map (fun declaration => (type, declaration)) <|>
        readAny? table line) := by
  rw [readAny?, readAny?, read?]
  cases leadingWord? line with
  | none => rfl
  | some read =>
      obtain ⟨word, rest⟩ := read
      dsimp only [Option.bind_eq_bind, Option.bind_some]
      rw [List.lookup_cons]
      by_cases same : word = keyword.toList
      · have listed : (String.ofList word == keyword) = true := by simp [same]
        rw [listed, if_pos same]
        cases named? rest with
        | none => simp
        | some declaration => rfl
      · have other : (String.ofList word == keyword) = false := by
          rw [beq_eq_false_iff_ne]
          rintro rfl
          exact same (by simp)
        rw [other, if_neg same]
        rfl

/-- The rules for the declarations with the keywords of a table. -/
def declarationRules (table : List (String × String)) : List (Rule Element) :=
  table.map fun row => declarationRule row.1.toList row.2

theorem agree_declarationRules {table : List (String × String)}
    (runs : ∀ row ∈ table, IsWordRun row.1.toList) :
    AgreeInOrder (declarationRules table) fun line =>
      (Declaration.readAny? table line).map fun read => read.2.element read.1 := by
  induction table with
  | nil =>
      intro line _
      dsimp only [declarationRules, Declaration.readAny?]
      cases leadingWord? line <;> rfl
  | cons row table ih =>
      obtain ⟨run, others⟩ := List.forall_mem_cons.1 runs
      have agree := agreeInOrder_cons (agrees_declarationRule run row.2) (ih others)
      intro line single
      rw [declarationRules, List.map_cons, ← declarationRules, agree line single]
      dsimp only
      rw [Declaration.readAny?_cons]
      cases Declaration.read? row.1.toList line <;> rfl

theorem agree_useCaseDeclarations :
    AgreeInOrder (declarationRules UseCaseLine.keywords) UseCaseLine.declaration? :=
  agree_declarationRules (by decide)

/-! ## Participants -/

namespace Pattern

/-- The words for the roles of participants. -/
def roleWords : List (List Char) :=
  SequenceLine.roles.map fun row => row.1.toList

/-- One of the roles, a name and possibly an alias:
`^(participant|actor|boundary|control|entity|database)\s+("[^"]+"|\w+)(?:\s+as\s+(\w+))?`. -/
def participant : Pattern :=
  inOrder [group 1 (oneOf "participant".toList (roleWords.tail)), gap, group 2 name,
    optional (aliasPart 3)]

/-- A participant in parts, as it is written: the role, and what is declared. -/
def writtenParticipant? (line : List Char) : Option (List Char × Declaration) :=
  (wordAmong roleWords line).bind fun role =>
    (gap? role.2).bind fun rest => (writtenNamed? rest).map fun written => (role.1, written)

theorem captures?_participant (line : List Char) :
    participant.captures? line =
      (writtenParticipant? line).map fun parts =>
        (1, parts.1) :: (2, parts.2.name) :: captured 3 parts.2.aliasName := by
  have reads : (oneOf "participant".toList roleWords.tail).Reads isWord (wordAmong roleWords) :=
    reads_oneOf (by decide) (by decide)
  have separate : (inOrder [gap, group 2 name, optional (aliasPart 3)]).Apart isWord :=
    apart_run fun _ => isBlank_eq_false_of_isWord
  rw [captures?_eq_first, participant, reads.first_group_cons 1 separate, writtenParticipant?,
    Option.map_bind]
  refine Option.bind_congr fun role _ => ?_
  rw [first_gap_cons (apart_name 2), Function.comp_apply, Option.map_bind]
  refine Option.bind_congr fun rest _ => ?_
  rw [first_named_cons 2 3 total_nil fun _ _ => rfl, Function.comp_apply, Option.map_map,
    Option.map_eq_bind]
  refine Option.bind_congr fun written _ => ?_
  rw [first_inOrder_nil, List.append_nil]
  rfl

/-- A word of no role is not listed. -/
theorem lookup_roles_eq_none {word : List Char} (unlisted : word ∉ roleWords) :
    SequenceLine.roles.lookup (String.ofList word) = none := by
  rw [List.lookup_eq_none_iff]
  intro row member
  rw [bne_iff_ne]
  intro same
  exact unlisted (List.mem_map.2 ⟨row, member, by rw [← same, String.toList_ofList]⟩)

theorem participant?_eq (line : List Char) :
    SequenceLine.participant? line =
      (writtenParticipant? line).map fun parts =>
        parts.2.unquoted.element (String.ofList (capitalize parts.1)) := by
  have capitalized : ∀ word ∈ roleWords, SequenceLine.roles.lookup (String.ofList word) =
      some (String.ofList (capitalize word)) := by decide +kernel
  rw [SequenceLine.participant?, Declaration.readAny?, writtenParticipant?, wordAmong,
    leadingWord?_eq]
  cases word? line with
  | none => rfl
  | some read =>
      dsimp only [Option.bind_eq_bind, Option.bind_some]
      by_cases listed : read.1 ∈ roleWords
      · rw [if_pos listed, Option.bind_some]
        cases gap? read.2 with
        | none => rfl
        | some rest =>
            dsimp only [Option.map_some, Option.bind_some]
            rw [capitalized read.1 listed, named?_eq]
            cases writtenNamed? rest <;> rfl
      · rw [if_neg listed]
        cases gap? read.2 with
        | none => rfl
        | some rest =>
            dsimp only [Option.map_some, Option.bind_some]
            rw [lookup_roles_eq_none listed]
            rfl

end Pattern

/-- The rule for participants. -/
def participantRule : Rule Element where
  pattern := participant
  needed := [1, 2]
  make _ captures := do
    let role ← captures.text 1
    captures.declared 2 3 (String.ofList (capitalize role))
  certain := by simp [participant, inOrder, Pattern.certain]
  makes := by
    intro _ captures sets
    obtain ⟨role, read⟩ := sets.exists_text 1 (by decide)
    obtain ⟨declared, made⟩ :=
      sets.exists_declared 2 3 (String.ofList (capitalize role)) (by decide)
    exact ⟨declared, by rw [read]; exact made⟩

theorem agrees_participantRule : participantRule.Agrees SequenceLine.participant? := by
  intro line _
  rw [participant?_eq]
  refine Rule.read_eq (captures?_participant line) fun parts member => ?_
  obtain ⟨role, -, read⟩ := Option.bind_eq_some_iff.1 member
  obtain ⟨rest, -, read⟩ := Option.bind_eq_some_iff.1 read
  obtain ⟨written, named, rfl⟩ := Option.map_eq_some_iff.1 read
  change Captures.declared ((1, role.1) :: (2, written.name) :: captured 3 written.aliasName) 2 3
    (String.ofList (capitalize role.1)) = _
  refine Captures.declared_eq named rfl ?_ _
  cases written.aliasName <;> rfl

/-! ## Pairs -/

namespace Pattern

/-- A word and a name: `^(\w+)\s+("[^"]+"|\w+)`. -/
def pair : Pattern :=
  inOrder [group 1 word, gap, group 2 name]

/-- A pair as it is written. -/
def writtenPair? (line : List Char) : Option (List Char × List Char) :=
  (leadingWord? line).bind fun read => (writtenName? read.2).map fun named => (read.1, named.1)

theorem captures?_pair (line : List Char) :
    pair.captures? line = (writtenPair? line).map fun parts => [(1, parts.1), (2, parts.2)] := by
  rw [captures?_eq_first, pair, first_leadingWord_cons 1 (apart_name 2), writtenPair?,
    Option.map_bind]
  refine Option.bind_congr fun read _ => ?_
  rw [first_inOrder_singleton, readsLast_name.first_group 2 fun _ _ => rfl, Function.comp_apply,
    Option.map_map, Option.map_eq_bind]
  rfl

theorem element?_eq (line : List Char) :
    PairLine.element? line =
      (writtenPair? line).map fun parts =>
        { type := String.ofList (capitalize parts.1)
          name := String.ofList (unquote parts.2) } := by
  rw [PairLine.element?, writtenPair?]
  cases leadingWord? line with
  | none => rfl
  | some read =>
      dsimp only [Option.bind_eq_bind, Option.bind_some]
      rw [name?_eq_writtenName?]
      cases writtenName? read.2 <;> rfl

end Pattern

/-- The rule for pairs. -/
def pairRule : Rule Element where
  pattern := pair
  needed := [1, 2]
  make _ captures := do
    let word ← captures.text 1
    let name ← captures.text 2
    return { type := String.ofList (capitalize word), name := String.ofList (unquote name) }
  certain := by simp [pair, inOrder, Pattern.certain]
  makes := by
    intro _ captures sets
    obtain ⟨word, first⟩ := sets.exists_text 1 (by decide)
    obtain ⟨name, second⟩ := sets.exists_text 2 (by decide)
    rw [first, second]
    exact ⟨_, rfl⟩

theorem agrees_pairRule : pairRule.Agrees PairLine.element? := by
  intro line _
  rw [element?_eq]
  exact Rule.read_eq (captures?_pair line) fun parts _ => rfl

end DiagramGraph
