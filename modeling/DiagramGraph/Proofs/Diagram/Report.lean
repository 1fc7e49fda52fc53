import DiagramGraph.Proofs.Diagram.Schema
import DiagramGraph.Proofs.Text.Unbroken
import DiagramGraph.Report
import Mathlib.Data.List.Basic

/-!
# The lines of a report

A report shows texts of the source to a reader who goes by its lines. No such text
holds a line end, not even a type that was changed in case, so every part of the
model has its own line in the report. And no such text stands at the start of a line,
so each line shows by its indentation what it is.
-/

namespace DiagramGraph

open DiagramGraph.Text

/-! ## What is shown of a model -/

/-- The element is well formed, and its type is unbroken. -/
structure Element.Printable (element : Element) : Prop extends element.WellFormed where
  type : IsUnbroken element.type.toList

/-- The relationship is well formed, and its cardinalities hold no line end. -/
structure Relationship.Printable (stated : Relationship) : Prop extends stated.WellFormed where
  sourceCardinality : ∀ cardinality ∈ stated.sourceCardinality, '\n' ∉ cardinality.text.toList
  targetCardinality : ∀ cardinality ∈ stated.targetCardinality, '\n' ∉ cardinality.text.toList

/-- A model whose parts can all be shown. -/
structure Model.Printable (model : Model) : Prop where
  elements : ∀ element ∈ model.elements, element.Printable
  relationships : ∀ stated ∈ model.relationships, stated.Printable

/-! ### Types -/

/-- The types that have a name of their own. -/
def namedTypes : List String :=
  ["Class", "Interface", "Enum", "Participant", "Actor", "Boundary", "Control", "Entity",
    "Database", "UseCase"]

theorem isUnbroken_of_mem_namedTypes {type : String} (named : type ∈ namedTypes) :
    IsUnbroken type.toList := by
  have checked : ∀ type ∈ namedTypes,
      type.toList ≠ [] ∧ type.toList.any isBlank = false := by decide
  obtain ⟨nonempty, visible⟩ := checked type named
  refine ⟨nonempty, fun char member => ?_⟩
  rw [← Bool.not_eq_true]
  exact List.any_eq_false.1 visible char member

theorem PairLine.isUnbroken_type {line : List Char} {declared : Element}
    (read : element? line = some declared) : IsUnbroken declared.type.toList := by
  obtain ⟨⟨word, behind⟩, leading, read⟩ := Option.bind_eq_some_iff.1 read
  obtain ⟨⟨name, behindName⟩, -, same⟩ := Option.bind_eq_some_iff.1 read
  cases same
  simpa using (isWordRun_of_leadingWord? leading).isUnbroken.capitalize

/-- The type of a declared element is one of those with a name of their own, or a word
of the line in capitals. -/
theorem DiagramKind.isUnbroken_type {kind : DiagramKind} {line : List Char} {declared : Element}
    (declares : kind.rules.declaration? line = some declared) :
    IsUnbroken declared.type.toList := by
  cases kind with
  | classes =>
      have listed : ∀ type ∈ ["Class", "Interface", "Enum"], type ∈ namedTypes := by decide
      exact isUnbroken_of_mem_namedTypes (listed _ (ClassLine.head_of_declaration? declares).1)
  | sequence =>
      obtain ⟨⟨type, declaration⟩, read, rfl⟩ := Option.map_eq_some_iff.1 declares
      have listed : ∀ type ∈ SequenceLine.roles.map Prod.snd, type ∈ namedTypes := by decide
      have named := (Declaration.exists_named?_of_readAny? read).2
      exact isUnbroken_of_mem_namedTypes (listed type named)
  | useCase =>
      obtain ⟨⟨type, declaration⟩, read, rfl⟩ := Option.map_eq_some_iff.1 declares
      have listed : ∀ type ∈ UseCaseLine.keywords.map Prod.snd, type ∈ namedTypes := by decide
      have named := (Declaration.exists_named?_of_readAny? read).2
      exact isUnbroken_of_mem_namedTypes (listed type named)
  | entityRelationship =>
      obtain ⟨declaration, -, rfl⟩ := Option.map_eq_some_iff.1 declares
      have entity : (declaration.element "Entity").type = "Entity" := rfl
      rw [entity]
      exact isUnbroken_of_mem_namedTypes (by decide)
  | object | activity | component | state | deployment | generic =>
      exact PairLine.isUnbroken_type declares

/-! ### Cardinalities -/

/-- What is quoted on a line stands on the line. -/
theorem ClassLine.subset_of_mem_quotedTexts {inside : Option (List Char)} {line text : List Char}
    (member : text ∈ quotedTexts inside line) : text ⊆ inside.getD [] ++ line := by
  induction line generalizing inside with
  | nil => contradiction
  | cons char line ih =>
      unfold quotedTexts at member
      split at member
      · split at member
        · next last others =>
            rcases List.mem_cons.1 member with rfl | later
            · intro found listed
              exact List.mem_append_left _ (List.mem_reverse.1 listed)
            · intro found listed
              have behind : found ∈ line := by simpa using ih later listed
              simp [behind]
        · intro found listed
          have behind : found ∈ line := by simpa using ih member listed
          simp [behind]
      · intro found listed
        have among := ih member listed
        cases inside with
        | none => simpa using Or.inr among
        | some read => simpa [or_assoc, or_left_comm] using among

theorem ClassLine.single_quotedCardinality {line : List Char} {position : Nat}
    (single : '\n' ∉ line) :
    ∀ cardinality ∈ quotedCardinality line position, '\n' ∉ cardinality.text.toList := by
  intro cardinality read
  obtain ⟨text, quoted, rfl⟩ := Option.map_eq_some_iff.1 read
  have inside := subset_of_mem_quotedTexts (List.mem_of_getElem? quoted)
  rw [Cardinality.text_ofText, String.toList_ofList]
  exact fun member => single (inside member)

theorem CrowsFoot.single_cardinality (connector : List Char) (side : ConnectorEnd) :
    '\n' ∉ (cardinality connector side).text.toList := by
  have table : ∀ row ∈ markers, '\n' ∉ row.2.text.toList := by decide
  unfold cardinality
  split
  · next found => exact table _ (List.mem_of_find?_eq_some found)
  · decide

/-- The cardinalities of a relationship are quoted on its line, or have names of their
own. -/
theorem DiagramKind.printable_of_rule {kind : DiagramKind} {line : List Char}
    {stated : Relationship} (single : '\n' ∉ line)
    (states : kind.rules.relationship? line = some stated) : stated.Printable := by
  have wellFormed := kind.makeWellFormed_rules.stated line stated single states
  have allowed := allowsRelationship_of_rule states
  have uncounted (counted : stated.IsUncounted) : stated.Printable :=
    { wellFormed with
      sourceCardinality := by simp [counted.sourceCardinality]
      targetCardinality := by simp [counted.targetCardinality] }
  cases kind with
  | classes =>
      obtain ⟨parts, -, rfl⟩ := Option.map_eq_some_iff.1 states
      exact { wellFormed with
        sourceCardinality := ClassLine.single_quotedCardinality single
        targetCardinality := ClassLine.single_quotedCardinality single }
  | sequence => exact uncounted allowed.2.2.2
  | useCase => exact uncounted allowed.2.2
  | entityRelationship =>
      obtain ⟨start, -, read⟩ := exists_suffix_of_firstAtWord states
      simp only [EntityLine.relationAt?, Option.bind_eq_bind, Option.bind_eq_some_iff,
        Option.pure_def, Option.some.injEq] at read
      obtain ⟨_, _, ⟨connector, _⟩, _, _, _, _, _, rfl⟩ := read
      exact { wellFormed with
        sourceCardinality := by
          rintro cardinality ⟨⟩
          exact CrowsFoot.single_cardinality connector .left
        targetCardinality := by
          rintro cardinality ⟨⟩
          exact CrowsFoot.single_cardinality connector .right }
  | object | activity | component | state | deployment | generic => contradiction

/-- Everything that is read from a source can be shown. -/
theorem Model.printable_of_parse {source : String} {model : Model}
    (parsed : parse source = .ok model) : model.Printable := by
  have conforms := conforms_of_parse parsed
  obtain ⟨kind, rfl⟩ := exists_ofSource_of_parse parsed
  constructor
  · intro element member
    have wellFormed := (conforms.elements element member).1
    rw [elements_eq_blocks] at member
    obtain ⟨⟨declared, body⟩, listed, rfl⟩ := List.mem_map.1 member
    obtain ⟨⟨line, -, declares⟩, -⟩ := LineRules.exists_declaration_of_mem_blocks listed
    have type := DiagramKind.isUnbroken_type declares
    exact { wellFormed with type }
  · intro stated member
    rw [relationships_eq_undeclared] at member
    obtain ⟨line, listed, states⟩ := List.mem_filterMap.1 member
    have inside := (List.mem_filter.1 listed).1
    exact DiagramKind.printable_of_rule (single_of_mem_contentLines inside) states

namespace Report

/-! ## Single lines -/

theorem single_digits (count : Nat) : '\n' ∉ Nat.toDigits 10 count := by
  intro member
  have digit := Nat.isDigit_of_mem_toDigits (by decide) (by decide) member
  contradiction

theorem single_counted {noun : String} (single : '\n' ∉ noun.toList) (count : Nat) :
    '\n' ∉ counted count noun := by
  rw [counted]
  split <;> simp [single_digits, single]

theorem single_header (model : Model) : '\n' ∉ header model := by
  have kind : '\n' ∉ model.kind.name.toList := by cases model.kind <;> decide
  have element : '\n' ∉ "element".toList := by decide
  have relationship : '\n' ∉ "relationship".toList := by decide
  have elements := single_counted element model.elements.length
  have relationships := single_counted relationship model.relationships.length
  simp [header, kind, elements, relationships]

theorem single_after {mark : List Char} {text : Option String} (plain : '\n' ∉ mark)
    (single : ∀ chars ∈ text, '\n' ∉ chars.toList) :
    '\n' ∉ after mark (text.map String.toList) := by
  cases text with
  | none => exact List.not_mem_nil
  | some chars => simpa [after] using ⟨plain, single chars rfl⟩

theorem single_visibilitySign (visibility : Option Visibility) :
    visibilitySign visibility ≠ '\n' := by
  cases visibility with
  | none => decide
  | some visibility => cases visibility <;> decide

theorem single_memberIndent {sign : Char} (single : sign ≠ '\n') : '\n' ∉ memberIndent sign := by
  simp [memberIndent, Ne.symm single]

theorem single_cardinalityPart {cardinality : Option Cardinality}
    (single : ∀ shown ∈ cardinality, '\n' ∉ shown.text.toList) :
    '\n' ∉ cardinalityPart cardinality := by
  cases cardinality with
  | none => exact List.not_mem_nil
  | some shown => simpa [cardinalityPart] using single shown rfl

theorem single_attributeLine {field : Attribute} (wellFormed : field.WellFormed) :
    '\n' ∉ attributeLine field := by
  have indent := single_memberIndent (single_visibilitySign field.visibility)
  have type : '\n' ∉ after ": ".toList (field.datatype.map String.toList) :=
    single_after (by decide) fun chars shown => (wellFormed.datatype chars shown).single
  simp only [attributeLine, List.mem_append, not_or]
  exact ⟨⟨indent, wellFormed.name.isQuotable.single⟩, type⟩

theorem single_methodLine {method : Method} (wellFormed : method.WellFormed) :
    '\n' ∉ methodLine method := by
  have indent := single_memberIndent (single_visibilitySign method.visibility)
  have parameters : '\n' ∉ (method.parameters.getD "").toList := by
    cases shown : method.parameters with
    | none => decide
    | some chars => exact (wellFormed.parameters chars shown).single
  have type : '\n' ∉ after ": ".toList (method.returnType.map String.toList) :=
    single_after (by decide) fun chars shown => (wellFormed.returnType chars shown).single
  simp only [methodLine, List.mem_append, List.mem_cons, not_or]
  exact ⟨⟨⟨indent, wellFormed.name.isQuotable.single⟩, by decide, parameters⟩, by decide, type⟩

theorem single_valueLine {value : String} (word : IsWordRun value.toList) :
    '\n' ∉ valueLine value := by
  have indent : '\n' ∉ memberIndent '•' := single_memberIndent (by decide)
  simp [valueLine, indent, word.isQuotable.single]

theorem single_elementLine {element : Element} (printable : element.Printable) :
    '\n' ∉ elementLine element := by
  have aliasName : '\n' ∉ after " as ".toList (element.aliasName.map String.toList) :=
    single_after (by decide) fun chars shown => (printable.aliasName chars shown).isQuotable.single
  have isAbstract :
      '\n' ∉ (if element.isAbstract = some true then " (abstract)".toList else []) := by
    split <;> decide
  have blank : '\n' ≠ ' ' := by decide
  simp only [elementLine, List.mem_append, List.mem_cons, not_or]
  refine ⟨⟨⟨⟨⟨⟨blank, blank, List.not_mem_nil⟩, printable.type.tidy.single⟩, blank,
    printable.name.single⟩, aliasName⟩, ?_⟩, isAbstract⟩
  cases shown : element.stereotype with
  | none => exact List.not_mem_nil
  | some chars => simpa using (printable.stereotype chars shown).single

/-- Every line about an element is a single line. -/
theorem single_of_mem_elementLines {element : Element} (printable : element.Printable) :
    ∀ line ∈ elementLines element, '\n' ∉ line := by
  rw [elementLines]
  simp only [List.cons_append, List.forall_mem_cons, List.forall_mem_append, List.forall_mem_map]
  refine ⟨single_elementLine printable, ⟨?_, ?_⟩, ?_⟩
  · exact fun field member => single_attributeLine (printable.attributes field member)
  · exact fun method member => single_methodLine (printable.methods method member)
  · intro value member
    cases shown : element.values with
    | none => simp [shown] at member
    | some values =>
        rw [shown, Option.getD_some] at member
        exact single_valueLine (printable.values values shown value member)

theorem single_relationshipLine {stated : Relationship} (printable : stated.Printable) :
    '\n' ∉ relationshipLine stated := by
  have source := single_cardinalityPart printable.sourceCardinality
  have target := single_cardinalityPart printable.targetCardinality
  have kind : '\n' ∉ stated.kind.name.toList := by cases stated.kind <;> decide
  have synchronous :
      '\n' ∉ (if stated.synchronous = some false then " (async)".toList else []) := by
    split <;> decide
  have text : ∀ chars ∈ stated.label <|> stated.message, '\n' ∉ chars.toList := by
    intro chars shown
    rcases (Option.orElse_eq_some _ _ _).1 shown with label | ⟨-, message⟩
    · exact (printable.label chars label).single
    · exact (printable.message chars message).single
  have further := single_after (by decide : '\n' ∉ [' ', ' ']) text
  have blank : '\n' ≠ ' ' := by decide
  simp only [relationshipLine, List.mem_append, List.mem_cons, not_or]
  exact ⟨⟨⟨⟨⟨⟨⟨⟨blank, blank, List.not_mem_nil⟩, printable.source.isQuotable.single⟩, source⟩,
    blank, kind⟩, synchronous⟩, target⟩, blank, printable.target.isQuotable.single⟩, further⟩

/-! ## All lines -/

/-- Lines that all end in a line end are found again, with nothing behind them. -/
theorem pieces_ended {lines : List (List Char)} (single : ∀ line ∈ lines, '\n' ∉ line) :
    pieces '\n' (lines.flatMap fun line => line ++ ['\n']) = lines ++ [[]] := by
  induction lines with
  | nil => rfl
  | cons line lines ih =>
      have first := List.forall_mem_cons.1 single
      rw [List.flatMap_cons, List.append_assoc, List.singleton_append, pieces_append first.1,
        ih first.2, List.cons_append]

theorem getLast?_ended {lines : List (List Char)} (nonempty : lines ≠ []) :
    (lines.flatMap fun line => line ++ ['\n']).getLast? = some '\n' := by
  obtain ⟨front, last, rfl⟩ := (List.eq_nil_or_concat lines).resolve_left nonempty
  simp

/-- A section is left out exactly if no item is shown in it. -/
theorem block_flatMap {α : Type} {shown : α → List (List Char)} (heading : String)
    {items : List α} (nonempty : ∀ item, shown item ≠ []) :
    block heading (items.flatMap shown) =
      if items = [] then [] else [] :: heading.toList :: items.flatMap shown := by
  cases items with
  | nil => rfl
  | cons item items =>
      obtain ⟨line, others, split⟩ := List.exists_cons_of_ne_nil (nonempty item)
      rw [List.flatMap_cons, split, List.cons_append, block, if_neg (List.cons_ne_nil _ _)]

theorem block_map {α : Type} (shown : α → List Char) (heading : String) (items : List α) :
    block heading (items.map shown) =
      if items = [] then [] else [] :: heading.toList :: items.map shown := by
  cases items with
  | nil => rfl
  | cons item items => rw [List.map_cons, block, if_neg (List.cons_ne_nil _ _)]

theorem elementLines_ne_nil (element : Element) : elementLines element ≠ [] := by
  rw [elementLines, List.cons_append]
  exact List.cons_ne_nil _ _

/-- Both sections with their headings, and the two lines above them. -/
theorem lines_eq (model : Model) :
    lines model =
      header model :: rule model ::
        ((if model.elements = [] then []
          else [] :: "ELEMENTS".toList :: model.elements.flatMap elementLines) ++
        if model.relationships = [] then []
        else [] :: "RELATIONSHIPS".toList :: model.relationships.map relationshipLine) := by
  rw [lines, block_flatMap _ elementLines_ne_nil, block_map, List.cons_append, List.cons_append]

theorem single_of_mem_lines {model : Model} (printable : model.Printable) :
    ∀ line ∈ lines model, '\n' ∉ line := by
  have rule : '\n' ∉ rule model := fun member =>
    absurd (List.eq_of_mem_replicate member) (by decide)
  have heading : '\n' ∉ "ELEMENTS".toList ∧ '\n' ∉ "RELATIONSHIPS".toList := by decide
  rw [lines_eq]
  refine List.forall_mem_cons.2 ⟨single_header model, List.forall_mem_cons.2 ⟨rule, ?_⟩⟩
  refine List.forall_mem_append.2 ⟨?_, ?_⟩
  · split
    · exact List.forall_mem_nil _
    · simp only [List.forall_mem_cons, List.forall_mem_flatMap]
      exact ⟨List.not_mem_nil, heading.1, fun element member =>
        single_of_mem_elementLines (printable.elements element member)⟩
  · split
    · exact List.forall_mem_nil _
    · simp only [List.forall_mem_cons, List.forall_mem_map]
      exact ⟨List.not_mem_nil, heading.2, fun stated member =>
        single_relationshipLine (printable.relationships stated member)⟩

/-! ## What a line is -/

/-- The sorts of lines that a report has. -/
inductive LineSort where
  | empty
  | title
  | item
  | member
  deriving DecidableEq

/-- What a line is, by its indentation alone. -/
def sortOf : List Char → LineSort
  | [] => .empty
  | ' ' :: ' ' :: ' ' :: ' ' :: _ => .member
  | ' ' :: ' ' :: _ => .item
  | _ => .title

theorem sortOf_indented {text : List Char} (unbroken : IsUnbroken text) (rest : List Char) :
    sortOf ([' ', ' '] ++ (text ++ rest)) = .item := by
  obtain ⟨first, others, rfl⟩ := List.exists_cons_of_ne_nil unbroken.nonempty
  have visible : first ≠ ' ' := by
    rintro rfl
    exact absurd (unbroken.visible ' ' (by simp)) (by decide)
  simp only [List.cons_append, List.nil_append]
  unfold sortOf
  split <;> simp_all

theorem sortOf_title {text : List Char} {first : Char} (starts : text.head? = some first)
    (visible : first ≠ ' ') : sortOf text = .title := by
  obtain ⟨rest, rfl⟩ := List.head?_eq_some_iff.1 starts
  unfold sortOf
  split <;> simp_all

theorem sortOf_elementLine {element : Element} (printable : element.Printable) :
    sortOf (elementLine element) = .item := by
  simp only [elementLine, List.append_assoc]
  exact sortOf_indented printable.type _

theorem sortOf_relationshipLine {stated : Relationship} (printable : stated.Printable) :
    sortOf (relationshipLine stated) = .item := by
  simp only [relationshipLine, List.append_assoc]
  exact sortOf_indented printable.source.isUnbroken _

/-- The number of members of an element, of all sorts. -/
def memberCount (element : Element) : Nat :=
  element.attributes.length + element.methods.length + (element.values.getD []).length

theorem map_sortOf_elementLines {element : Element} (printable : element.Printable) :
    (elementLines element).map sortOf =
      .item :: List.replicate (memberCount element) .member := by
  have attributes : element.attributes.map (sortOf ∘ attributeLine) =
      List.replicate element.attributes.length .member := List.map_const'
  have methods : element.methods.map (sortOf ∘ methodLine) =
      List.replicate element.methods.length .member := List.map_const'
  have values : (element.values.getD []).map (sortOf ∘ valueLine) =
      List.replicate (element.values.getD []).length .member := List.map_const'
  simp only [elementLines, List.cons_append, List.map_cons, List.map_append, List.map_map,
    sortOf_elementLine printable, attributes, methods, values, memberCount, List.replicate_add]

/-- Which lines a report has of each sort depends on numbers only, not on any text. -/
theorem map_sortOf_lines {model : Model} (printable : model.Printable) :
    (lines model).map sortOf =
      .title :: .title ::
        ((if model.elements = [] then []
          else .empty :: .title :: model.elements.flatMap fun element =>
            .item :: List.replicate (memberCount element) .member) ++
        if model.relationships = [] then []
        else .empty :: .title :: List.replicate model.relationships.length .item) := by
  have named : ∃ first ∈ (header model).head?, first ≠ ' ' := by
    rw [header]
    cases model.kind <;> exact ⟨_, rfl, by decide⟩
  obtain ⟨first, starts, visible⟩ := named
  have ruled : (rule model).head? = some '─' := by
    obtain ⟨rest, shape⟩ := List.head?_eq_some_iff.1 starts
    rw [rule, shape, List.length_cons, List.replicate_succ, List.head?_cons]
  have elements : (model.elements.flatMap elementLines).map sortOf =
      model.elements.flatMap fun element =>
        .item :: List.replicate (memberCount element) .member := by
    rw [List.map_flatMap]
    exact List.flatMap_congr fun element member =>
      map_sortOf_elementLines (printable.elements element member)
  have relationships : (model.relationships.map relationshipLine).map sortOf =
      List.replicate model.relationships.length .item := by
    rw [List.map_map, List.eq_replicate_iff]
    refine ⟨List.length_map _, fun sort member => ?_⟩
    obtain ⟨stated, listed, rfl⟩ := List.mem_map.1 member
    exact sortOf_relationshipLine (printable.relationships stated listed)
  have elementTitle : sortOf "ELEMENTS".toList = .title := rfl
  have relationshipTitle : sortOf "RELATIONSHIPS".toList = .title := rfl
  have empty : sortOf [] = .empty := rfl
  rw [lines_eq, List.map_cons, List.map_cons, sortOf_title starts visible,
    sortOf_title ruled (by decide), List.map_append]
  congr 3
  · split
    · rfl
    · rw [List.map_cons, List.map_cons, elements, elementTitle, empty]
  · split
    · rfl
    · rw [List.map_cons, List.map_cons, relationships, relationshipTitle, empty]

/-! ## The main statement -/

/-- The report on a model that is read from a source ends in a line end and has these
lines: a header and a rule of the same length; if there are elements, an empty line, a
heading and one line for each element, followed by one for each of its members; and if
there are relationships, an empty line, a heading and one line for each relationship.
What sort each line is of can be told from its indentation, whatever texts the source
holds. -/
theorem lines_of_parse {source : String} {model : Model} (parsed : parse source = .ok model) :
    (text model).toList.getLast? = some '\n' ∧
      pieces '\n' (text model).toList =
        header model :: rule model ::
          ((if model.elements = [] then []
            else [] :: "ELEMENTS".toList :: model.elements.flatMap fun element =>
              elementLine element :: (element.attributes.map attributeLine ++
                element.methods.map methodLine ++ (element.values.getD []).map valueLine)) ++
          (if model.relationships = [] then []
            else [] :: "RELATIONSHIPS".toList :: model.relationships.map relationshipLine) ++
          [[]]) ∧
      (rule model).length = (header model).length ∧
      (pieces '\n' (text model).toList).map sortOf =
        .title :: .title ::
          ((if model.elements = [] then []
            else .empty :: .title :: model.elements.flatMap fun element =>
              .item :: List.replicate (memberCount element) .member) ++
          (if model.relationships = [] then []
            else .empty :: .title :: List.replicate model.relationships.length .item) ++
          [.empty]) := by
  have printable := Model.printable_of_parse parsed
  have split : pieces '\n' (text model).toList = lines model ++ [[]] := by
    rw [text, String.toList_ofList, pieces_ended (single_of_mem_lines printable)]
  refine ⟨?_, ?_, List.length_replicate, ?_⟩
  · have nonempty : lines model ≠ [] := by
      rw [lines_eq]
      exact List.cons_ne_nil _ _
    rw [text, String.toList_ofList, getLast?_ended nonempty]
  · rw [split, lines_eq]
    rfl
  · rw [split, List.map_append, map_sortOf_lines printable]
    rfl

/-- A class with a field, and a relationship between classes. -/
def parcelSource : String :=
  "@startclass\nclass Parcel\n-weight : Int\nParcel \"1\" -- Wheel : rolls"

def parcelModel : Model :=
  { kind := .classes
    elements :=
      [ { type := "Class"
          name := "Parcel"
          isAbstract := some false
          attributes :=
            [ { name := "weight", datatype := some "Int", visibility := some .privateAccess } ] } ]
    relationships :=
      [ { kind := .association, source := "Parcel", target := "Wheel", label := some "rolls"
          sourceCardinality := some .one } ] }

theorem lines_of_parcelSource :
    parse parcelSource = .ok parcelModel ∧
      (pieces '\n' (text parcelModel).toList).map sortOf =
        [.title, .title, .empty, .title, .item, .member, .empty, .title, .item, .empty] := by
  have detected : detect parcelSource = .ok .classes := by decide +kernel
  have made : Model.ofSource .classes parcelSource = parcelModel := by decide +kernel
  have parsed : parse parcelSource = .ok parcelModel := by
    rw [parse, detected, ← made]
    rfl
  exact ⟨parsed, (lines_of_parse parsed).2.2.2⟩

end Report

end DiagramGraph
