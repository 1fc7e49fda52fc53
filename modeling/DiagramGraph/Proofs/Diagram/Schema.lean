import DiagramGraph.Proofs.Diagram.Canonical
import DiagramGraph.Proofs.Entry.WellFormed

/-!
# The schema of models

A model that is read from a source holds to a schema: all its parts are well
formed, and the kind of the diagram decides what sorts of elements, members and
relationships there can be, and which of their fields are set.
-/

namespace DiagramGraph

open DiagramGraph.Text

/-! ## What each kind of diagram allows -/

/-- An element of a class diagram. Only classes say whether they are abstract or
have a stereotype, and only enumerations have a list of values. Every attribute
has a type, every member is visible to someone, and no method is both abstract
and static. -/
structure Element.IsClassifier (element : Element) : Prop where
  type : element.type ∈ ["Class", "Interface", "Enum"]
  isAbstract : element.isAbstract.isSome ↔ element.type = "Class"
  stereotype : element.stereotype.isSome → element.type = "Class"
  values : element.values.isSome ↔ element.type = "Enum"
  attributes : ∀ field ∈ element.attributes, field.datatype.isSome ∧ field.visibility.isSome
  methods : ∀ method ∈ element.methods,
    method.visibility.isSome ∧ ¬(method.isAbstract.isSome ∧ method.isStatic.isSome)

/-- An element that is neither abstract nor concrete and has no stereotype and no
literals. -/
structure Element.IsPlain (element : Element) : Prop where
  isAbstract : element.isAbstract = none
  stereotype : element.stereotype = none
  values : element.values = none

/-- An element without members. -/
structure Element.IsMemberless (element : Element) : Prop extends element.IsPlain where
  attributes : element.attributes = []
  methods : element.methods = []

/-- An element of an entity diagram. Its attributes have a type and nothing
else. -/
structure Element.IsEntity (element : Element) : Prop extends element.IsPlain where
  type : element.type = "Entity"
  attributes : ∀ field ∈ element.attributes,
    field.datatype.isSome ∧ field.visibility = none ∧ field.defaultValue = none
  methods : element.methods = []

/-- What elements a diagram can have. -/
def DiagramKind.AllowsElement (kind : DiagramKind) (element : Element) : Prop :=
  match kind with
  | .classes => element.IsClassifier
  | .sequence =>
      element.type ∈ ["Participant", "Actor", "Boundary", "Control", "Entity", "Database"] ∧
        element.IsMemberless
  | .useCase => element.type ∈ ["Actor", "UseCase"] ∧ element.IsMemberless
  | .entityRelationship => element.IsEntity
  | .object | .activity | .component | .state | .deployment | .generic =>
      element.aliasName = none ∧ element.IsMemberless

/-- The kinds of relationships between classes. -/
def RelationshipKind.betweenClasses : List RelationshipKind :=
  [.association, .extension, .implementation, .composition, .aggregation, .dependency]

/-- A relationship that is no message. -/
structure Relationship.IsSilent (stated : Relationship) : Prop where
  message : stated.message = none
  synchronous : stated.synchronous = none

/-- A relationship that says nothing about how many things stand at its ends. -/
structure Relationship.IsUncounted (stated : Relationship) : Prop where
  sourceCardinality : stated.sourceCardinality = none
  targetCardinality : stated.targetCardinality = none

/-- What relationships a diagram can have. -/
def DiagramKind.AllowsRelationship (kind : DiagramKind) (stated : Relationship) : Prop :=
  match kind with
  | .classes => stated.kind ∈ RelationshipKind.betweenClasses ∧ stated.IsSilent
  | .sequence =>
      stated.kind = .message ∧ stated.synchronous.isSome ∧ stated.label = none ∧ stated.IsUncounted
  | .useCase =>
      stated.kind ∈ [RelationshipKind.association, .inclusion] ∧ stated.IsSilent ∧
        stated.IsUncounted
  | .entityRelationship =>
      stated.kind = .entityRelation ∧ stated.sourceCardinality.isSome ∧
        stated.targetCardinality.isSome ∧ stated.IsSilent
  | .object | .activity | .component | .state | .deployment | .generic => False

/-- The model has only well-formed parts, and of the sorts that its kind
allows. -/
structure Model.Conforms (model : Model) : Prop where
  elements : ∀ element ∈ model.elements, element.WellFormed ∧ model.kind.AllowsElement element
  relationships : ∀ stated ∈ model.relationships,
    stated.WellFormed ∧ model.kind.AllowsRelationship stated

/-! ## What single lines make -/

/-- What the rules of a kind make of single lines is well formed. -/
structure LineRules.MakeWellFormed (rules : LineRules) : Prop where
  declared : ∀ line declared, '\n' ∉ line → rules.declaration? line = some declared →
    declared.WellFormed
  stated : ∀ line stated, '\n' ∉ line → rules.relationship? line = some stated →
    stated.WellFormed
  field : ∀ line field, '\n' ∉ line → rules.attribute? line = some field → field.WellFormed
  method : ∀ line method, '\n' ∉ line → rules.method? line = some method → method.WellFormed
  literal : ∀ line text, '\n' ∉ line → rules.literal? line = some text → IsWordRun text.toList

theorem DiagramKind.makeWellFormed_rules (kind : DiagramKind) : kind.rules.MakeWellFormed := by
  cases kind with
  | classes =>
      exact
        { declared := fun _ _ single read => ClassLine.wellFormed_of_declaration? read single
          stated := fun _ _ single read => ClassLine.wellFormed_of_relationship? read single
          field := fun _ _ single read => ClassLine.wellFormed_of_attribute? read single
          method := fun _ _ single read => ClassLine.wellFormed_of_method? read single
          literal := by
            intro line text single read
            obtain ⟨word, literal, rfl⟩ := Option.map_eq_some_iff.1 read
            simpa using ClassLine.isWordRun_of_literal? literal }
  | sequence =>
      exact
        { declared := fun _ _ single read => SequenceLine.wellFormed_of_participant? read single
          stated := fun _ _ single read => SequenceLine.wellFormed_of_message? read single
          field := nofun
          method := nofun
          literal := nofun }
  | useCase =>
      exact
        { declared := fun _ _ single read => UseCaseLine.wellFormed_of_declaration? read single
          stated := fun _ _ single read => UseCaseLine.wellFormed_of_link? read single
          field := nofun
          method := nofun
          literal := nofun }
  | entityRelationship =>
      exact
        { declared := fun _ _ single read => EntityLine.wellFormed_of_entity? read single
          stated := fun _ _ single read => EntityLine.wellFormed_of_relation? read single
          field := fun _ _ single read => EntityLine.wellFormed_of_attribute? read single
          method := nofun
          literal := nofun }
  | object | activity | component | state | deployment | generic =>
      refine
        { declared := fun _ _ single read => PairLine.wellFormed_of_element? read single
          stated := fun line stated _ read => ?_
          field := fun line field _ read => ?_
          method := fun line method _ read => ?_
          literal := fun line text _ read => ?_ } <;>
      cases read

theorem RelationshipKind.ofConnector_mem (connector : List Char) :
    ofConnector connector ∈ betweenClasses := by
  have table : ∀ row ∈ kindFragments, row.2 ∈ betweenClasses := by decide
  unfold ofConnector
  split
  · next found => exact table _ (List.mem_of_find?_eq_some found)
  · decide

/-- What the rules of a kind state are relationships that the kind allows. -/
theorem DiagramKind.allowsRelationship_of_rule {kind : DiagramKind} {line : List Char}
    {stated : Relationship} (states : kind.rules.relationship? line = some stated) :
    kind.AllowsRelationship stated := by
  cases kind with
  | classes =>
      obtain ⟨parts, -, rfl⟩ := Option.map_eq_some_iff.1 states
      exact ⟨RelationshipKind.ofConnector_mem _, ⟨rfl, rfl⟩⟩
  | sequence =>
      obtain ⟨start, -, read⟩ := exists_suffix_of_firstAtWord states
      simp only [SequenceLine.messageAt?, Option.bind_eq_bind, Option.bind_eq_some_iff,
        Option.pure_def, Option.some.injEq] at read
      obtain ⟨_, _, _, _, _, _, rfl⟩ := read
      exact ⟨rfl, rfl, rfl, ⟨rfl, rfl⟩⟩
  | useCase =>
      obtain ⟨start, -, read⟩ := exists_suffix_of_firstAtWord states
      simp only [UseCaseLine.linkAt?, Option.bind_eq_bind, Option.bind_eq_some_iff,
        Option.pure_def, Option.some.injEq] at read
      obtain ⟨_, _, ⟨link, _⟩, _, _, _, _, _, rfl⟩ := read
      refine ⟨?_, ⟨rfl, rfl⟩, ⟨rfl, rfl⟩⟩
      cases Link.isDotted link <;> simp
  | entityRelationship =>
      obtain ⟨start, -, read⟩ := exists_suffix_of_firstAtWord states
      simp only [EntityLine.relationAt?, Option.bind_eq_bind, Option.bind_eq_some_iff,
        Option.pure_def, Option.some.injEq] at read
      obtain ⟨_, _, _, _, _, _, _, _, rfl⟩ := read
      exact ⟨rfl, rfl, rfl, ⟨rfl, rfl⟩⟩
  | object | activity | component | state | deployment | generic => contradiction

/-! ## Blocks of lines -/

namespace LineRules

variable {rules : LineRules} {lines body : List (List Char)}

/-- A block is a declaration and lines of the source. -/
theorem exists_declaration_of_mem_blocks {block : Element × List (List Char)}
    (member : block ∈ rules.blocks lines) :
    (∃ line ∈ lines, rules.declaration? line = some block.1) ∧ block.2 ⊆ lines := by
  induction lines with
  | nil => contradiction
  | cons line lines ih =>
      rw [blocks] at member
      cases declares : rules.declaration? line with
      | none =>
          rw [declares] at member
          obtain ⟨⟨other, inside, declared⟩, further⟩ := ih member
          exact ⟨⟨other, List.mem_cons_of_mem line inside, declared⟩,
            List.subset_cons_of_subset line further⟩
      | some declared =>
          rw [declares] at member
          rcases List.mem_cons.1 member with rfl | member
          · refine ⟨⟨line, List.mem_cons_self, declares⟩, ?_⟩
            exact List.subset_cons_of_subset line (List.takeWhile_subset _)
          · obtain ⟨⟨other, inside, declared⟩, further⟩ := ih member
            exact ⟨⟨other, List.mem_cons_of_mem line inside, declared⟩,
              List.subset_cons_of_subset line further⟩

/-- A member stands on a line of the block. -/
theorem exists_of_mem_unrelated {α : Type} {rule : List Char → Option α} {item : α}
    (member : item ∈ (rules.unrelated body).filterMap rule) :
    ∃ line ∈ body, rule line = some item := by
  obtain ⟨line, inside, read⟩ := List.mem_filterMap.1 member
  exact ⟨line, (List.mem_filter.1 inside).1, read⟩

/-- A well-formed declaration makes a well-formed element with the members of its
block. -/
theorem MakeWellFormed.blockElement (makes : rules.MakeWellFormed) {declared : Element}
    (wellFormed : declared.WellFormed) (single : ∀ line ∈ body, '\n' ∉ line) :
    (rules.blockElement (declared, body)).WellFormed where
  name := wellFormed.name
  aliasName := wellFormed.aliasName
  stereotype := wellFormed.stereotype
  attributes := by
    intro field member
    obtain ⟨line, inside, read⟩ := exists_of_mem_unrelated member
    exact makes.field line field (single line inside) read
  methods := by
    intro method member
    obtain ⟨line, inside, read⟩ := exists_of_mem_unrelated member
    exact makes.method line method (single line inside) read
  values := by
    intro values member text listed
    obtain ⟨_, -, rfl⟩ := Option.map_eq_some_iff.1 member
    obtain ⟨line, inside, read⟩ := exists_of_mem_unrelated listed
    exact makes.literal line text (single line inside) read

end LineRules

namespace ClassLine

variable {line : List Char}

theorem shown_of_attribute? {field : Attribute} (read : attribute? line = some field) :
    field.datatype.isSome ∧ field.visibility.isSome := by
  simp only [attribute?, Option.bind_eq_bind, Option.bind_eq_some_iff, Option.pure_def,
    Option.some.injEq, Prod.exists] at read
  obtain ⟨_, _, -, _, -, _, _, -, rfl⟩ := read
  exact ⟨rfl, rfl⟩

/-- A method line has at most one modifier. -/
theorem shown_of_method? {method : Method} (read : method? line = some method) :
    method.visibility.isSome ∧ ¬(method.isAbstract.isSome ∧ method.isStatic.isSome) := by
  simp only [method?, Option.bind_eq_bind, Option.bind_eq_some_iff, Option.pure_def,
    Option.some.injEq, Prod.exists] at read
  obtain ⟨_, _, -, _, _, -, rfl⟩ := read
  refine ⟨rfl, ?_⟩
  cases modified : (memberHead line).2.1 with
  | none => simp
  | some modifier => cases modifier <;> simp

theorem head_of_declaration? {declared : Element} (declares : declaration? line = some declared) :
    declared.type ∈ ["Class", "Interface", "Enum"] ∧
      (declared.isAbstract.isSome ↔ declared.type = "Class") ∧
      (declared.stereotype.isSome → declared.type = "Class") := by
  simp only [declaration?, Option.orElse_eq_some] at declares
  rcases declares with isClass | ⟨-, isInterface | ⟨-, isEnum⟩⟩
  · obtain ⟨_, -, read⟩ := Option.bind_eq_some_iff.1 isClass
    obtain ⟨declaration, -, same⟩ := Option.bind_eq_some_iff.1 read
    cases same
    simp [Declaration.element]
  · obtain ⟨declaration, -, rfl⟩ := Option.map_eq_some_iff.1 isInterface
    simp [Declaration.element]
  · obtain ⟨declaration, -, rfl⟩ := Option.map_eq_some_iff.1 isEnum
    simp [Declaration.element]

theorem isClassifier_blockElement {declared : Element}
    (declares : declaration? line = some declared) (body : List (List Char)) :
    (DiagramKind.classes.rules.blockElement (declared, body)).IsClassifier := by
  obtain ⟨type, isAbstract, stereotype⟩ := head_of_declaration? declares
  have values := values_of_declaration? declares
  exact
    { type, isAbstract, stereotype
      values := by
        rw [LineRules.blockElement, Option.isSome_map, values]
        split <;> simp_all
      attributes := by
        intro field member
        obtain ⟨line, -, read⟩ := LineRules.exists_of_mem_unrelated member
        exact shown_of_attribute? read
      methods := by
        intro method member
        obtain ⟨line, -, read⟩ := LineRules.exists_of_mem_unrelated member
        exact shown_of_method? read }

end ClassLine

theorem EntityLine.isEntity_blockElement {line : List Char} {declared : Element}
    (declares : entity? line = some declared) (body : List (List Char)) :
    (DiagramKind.entityRelationship.rules.blockElement (declared, body)).IsEntity := by
  obtain ⟨declaration, -, rfl⟩ := Option.map_eq_some_iff.1 declares
  refine ⟨⟨rfl, rfl, rfl⟩, rfl, ?_, ?_⟩
  · intro field member
    obtain ⟨line, -, read⟩ := LineRules.exists_of_mem_unrelated member
    obtain ⟨⟨name, rest⟩, -, read⟩ := Option.bind_eq_some_iff.1 read
    dsimp only at read
    split at read
    · obtain ⟨type, -, same⟩ := Option.bind_eq_some_iff.1 read
      cases same
      exact ⟨rfl, rfl, rfl⟩
    · contradiction
  · simp [LineRules.blockElement, LineRules.members, DiagramKind.rules]

/-- Rules that give no members make elements as they are declared. -/
theorem LineRules.isMemberless_blockElement {rules : LineRules} {declared : Element}
    (plain : declared.IsPlain) (body : List (List Char))
    (noAttribute : rules.attribute? = fun _ => none) (noMethod : rules.method? = fun _ => none) :
    (rules.blockElement (declared, body)).IsMemberless where
  isAbstract := plain.isAbstract
  stereotype := plain.stereotype
  values := by simp [blockElement, plain.values]
  attributes := by simp [blockElement, members, noAttribute]
  methods := by simp [blockElement, members, noMethod]

theorem Declaration.isPlain_element (declaration : Declaration) (type : String) :
    (declaration.element type).IsPlain :=
  ⟨rfl, rfl, rfl⟩

/-- What the rules of a kind declare are elements that the kind allows, with the
members of their blocks. -/
theorem DiagramKind.allowsElement_blockElement {kind : DiagramKind} {line : List Char}
    {declared : Element} (declares : kind.rules.declaration? line = some declared)
    (body : List (List Char)) : kind.AllowsElement (kind.rules.blockElement (declared, body)) := by
  cases kind with
  | classes => exact ClassLine.isClassifier_blockElement declares body
  | sequence =>
      obtain ⟨⟨type, declaration⟩, read, rfl⟩ := Option.map_eq_some_iff.1 declares
      exact ⟨(Declaration.exists_named?_of_readAny? read).2,
        LineRules.isMemberless_blockElement (declaration.isPlain_element type) body rfl rfl⟩
  | useCase =>
      obtain ⟨⟨type, declaration⟩, read, rfl⟩ := Option.map_eq_some_iff.1 declares
      exact ⟨(Declaration.exists_named?_of_readAny? read).2,
        LineRules.isMemberless_blockElement (declaration.isPlain_element type) body rfl rfl⟩
  | entityRelationship => exact EntityLine.isEntity_blockElement declares body
  | object | activity | component | state | deployment | generic =>
      obtain ⟨_, -, read⟩ := Option.bind_eq_some_iff.1 declares
      obtain ⟨_, -, same⟩ := Option.bind_eq_some_iff.1 read
      cases same
      exact ⟨rfl, LineRules.isMemberless_blockElement ⟨rfl, rfl, rfl⟩ body rfl rfl⟩

/-! ## The main statement -/

theorem Model.conforms_ofSource (kind : DiagramKind) (source : String) :
    (Model.ofSource kind source).Conforms where
  elements := by
    intro element member
    rw [elements_eq_blocks] at member
    obtain ⟨⟨declared, body⟩, listed, rfl⟩ := List.mem_map.1 member
    obtain ⟨⟨line, inside, declares⟩, within⟩ := LineRules.exists_declaration_of_mem_blocks listed
    have makes := kind.makeWellFormed_rules
    have wellFormed :=
      makes.declared line declared (single_of_mem_contentLines inside) declares
    exact ⟨makes.blockElement wellFormed fun other found =>
        single_of_mem_contentLines (within found),
      DiagramKind.allowsElement_blockElement declares body⟩
  relationships := by
    intro stated member
    rw [relationships_eq_undeclared] at member
    obtain ⟨line, listed, states⟩ := List.mem_filterMap.1 member
    have inside := (List.mem_filter.1 listed).1
    exact ⟨kind.makeWellFormed_rules.stated line stated (single_of_mem_contentLines inside) states,
      DiagramKind.allowsRelationship_of_rule states⟩

/-- Every model that is read from a source conforms to the schema. -/
theorem Model.conforms_of_parse {source : String} {model : Model}
    (parsed : parse source = .ok model) : model.Conforms := by
  obtain ⟨kind, rfl⟩ := exists_ofSource_of_parse parsed
  exact conforms_ofSource kind source

/-- An abstract class with members, an enumeration and a relationship between
them. -/
def catalogueSource : String :=
  "@startclass\nabstract class \"Item list\" as Items << kept >> \x7b\n" ++
    "  -\x7bstatic\x7d size: Int = 0\n  #\x7babstract\x7d find( key ): Item[]\n\x7d\n" ++
    "enum State\nOPEN,\nItems \"1\" o-- \"*\" State : shows "

def catalogueModel : Model :=
  { kind := .classes
    elements :=
      [ { type := "Class"
          name := "Item list"
          aliasName := some "Items"
          isAbstract := some true
          stereotype := some "kept"
          attributes :=
            [ { name := "size", datatype := some "Int", visibility := some .privateAccess
                defaultValue := some "0" } ]
          methods :=
            [ { name := "find", parameters := some "key", returnType := some "Item[]"
                visibility := some .protectedAccess, isAbstract := some true } ] },
        { type := "Enum", name := "State", values := some ["OPEN"] } ]
    relationships :=
      [ { kind := .aggregation, source := "Items", target := "State", label := some "shows"
          sourceCardinality := some .one, targetCardinality := some .many } ] }

theorem catalogueModel_conforms :
    parse catalogueSource = .ok catalogueModel ∧ catalogueModel.Conforms := by
  have parsed : parse catalogueSource = .ok catalogueModel := by decide +kernel
  exact ⟨parsed, Model.conforms_of_parse parsed⟩

end DiagramGraph
