import DiagramGraph.Proofs.Diagram.Schema
import DiagramGraph.Proofs.Graph.Identifier
import DiagramGraph.Proofs.Storage.Folder

/-!
# Declarations that several kinds of diagrams share

Actors are declared in sequence diagrams and in use-case diagrams, entities in
sequence diagrams and in entity diagrams. The kinds read such declarations by
tables and rules of their own, and other rules stand around them; but whichever
of the kinds a source is taken for, it declares the same actors and the same
entities. Only the attributes of entities belong to entity diagrams alone.
-/

namespace DiagramGraph

open DiagramGraph.Text

/-! ## Declarations by a table -/

namespace Declaration

variable {table : List (String × String)} {keyword type : String}

/-- In a table that has every keyword and every type once, a type stands for its
keyword alone. -/
theorem lookup_eq_some_iff (keywords : (table.map Prod.fst).Nodup)
    (types : (table.map Prod.snd).Nodup) (listed : (keyword, type) ∈ table) {word : String} :
    table.lookup word = some type ↔ word = keyword := by
  rw [Storage.lookup_eq_some_iff_mem keywords]
  constructor
  · intro member
    have same : (word, type) = (keyword, type) :=
      List.inj_on_of_nodup_map types member listed rfl
    exact congrArg Prod.fst same
  · rintro rfl
    exact listed

/-- What is declared by a table as one type is what is declared by the keyword of
that type. -/
theorem readAny?_eq_some_iff (keywords : (table.map Prod.fst).Nodup)
    (types : (table.map Prod.snd).Nodup) (listed : (keyword, type) ∈ table) {line : List Char}
    {declaration : Declaration} :
    readAny? table line = some (type, declaration) ↔
      read? keyword.toList line = some declaration := by
  have only {word : List Char} :
      table.lookup (String.ofList word) = some type ↔ word = keyword.toList := by
    rw [lookup_eq_some_iff keywords types listed, ← String.toList_inj, String.toList_ofList]
  simp only [readAny?, read?, Option.bind_eq_bind, Option.bind_eq_some_iff, Option.pure_def,
    Option.some.injEq, Prod.mk.injEq, Prod.exists]
  constructor
  · rintro ⟨word, rest, leading, found, looked, read, named, rfl, rfl⟩
    exact ⟨word, rest, leading, by rw [if_pos (only.1 looked), named]⟩
  · rintro ⟨word, rest, leading, read⟩
    split at read
    · next same => exact ⟨word, rest, leading, type, only.2 same, declaration, read, rfl, rfl⟩
    · contradiction

/-- The elements of one type among those that are declared by a table. -/
theorem filter_readAny? (keywords : (table.map Prod.fst).Nodup)
    (types : (table.map Prod.snd).Nodup) (listed : (keyword, type) ∈ table) (line : List Char) :
    ((readAny? table line).map fun (type, declaration) => declaration.element type).filter
        (fun element => element.type = type) =
      (read? keyword.toList line).map fun declaration => declaration.element type := by
  apply Option.ext
  intro made
  simp only [Option.filter_eq_some_iff, Option.map_eq_some_iff, Prod.exists, decide_eq_true_eq]
  constructor
  · rintro ⟨⟨other, declaration, read, rfl⟩, rfl⟩
    exact ⟨declaration, (readAny?_eq_some_iff keywords types listed).1 read, rfl⟩
  · rintro ⟨declaration, read, rfl⟩
    exact ⟨⟨type, declaration, (readAny?_eq_some_iff keywords types listed).2 read, rfl⟩, rfl⟩

end Declaration

/-! ## Elements of one type -/

/-- The elements of a model that have a certain type, in order. -/
def Model.ofType (model : Model) (type : String) : List Element :=
  model.elements.filter fun element => element.type = type

/-- The identifiers of the elements of a certain type in the graph of a model, in
order. -/
def Model.idsOfType (model : Model) (base type : String) : List String :=
  ((Graph.ofModel base model).elements.filter fun node => node.type = type).map ElementNode.id

/-- The element without attributes. -/
def Element.withoutAttributes (element : Element) : Element :=
  { element with attributes := [] }

/-- What is declared by a keyword in a source, line by line. -/
def declaredBy (keyword type source : String) : List Element :=
  (contentLines source.toList).filterMap fun line =>
    (Declaration.read? keyword.toList line).map fun declaration => declaration.element type

/-- An element whose name is not empty is identified by its alias or its name,
wherever it stands. -/
theorem Element.localName_eq {element : Element} (named : element.name ≠ "") (index : Nat) :
    element.localName index = element.aliasName.getD element.name := by
  rw [localName]
  cases element.aliasName with
  | none => exact if_neg named
  | some aliasName => rfl

/-- If no name is empty, the identifiers of the elements of a type are minted from
these elements alone. -/
theorem Model.idsOfType_eq {model : Model} (named : ∀ element ∈ model.elements, element.name ≠ "")
    (base type : String) :
    model.idsOfType base type =
      (model.ofType type).map fun element => mint base (element.aliasName.getD element.name) := by
  have nodes : (Graph.ofModel base model).elements =
      model.elements.map (ElementNode.ofElement base 0) := by
    apply List.ext_getElem
    · simp [Graph.ofModel]
    · intro index inside _
      have bound : index < model.elements.length := by simpa [Graph.ofModel] using inside
      have member : model.elements[index] ∈ model.elements := List.getElem_mem bound
      simp [Graph.ofModel, ElementNode.ofElement, Element.localName_eq (named _ member)]
  rw [idsOfType, nodes, List.filter_map, List.map_map, ofType]
  apply List.map_congr_left
  intro element member
  have inside : element ∈ model.elements := (List.mem_filter.1 member).1
  exact congrArg (mint base) (Element.localName_eq (named element inside) 0)

/-- Every element that is read from a source has a name. -/
theorem Model.name_ne_empty (kind : DiagramKind) (source : String) :
    ∀ element ∈ (Model.ofSource kind source).elements, element.name ≠ "" := by
  intro element member empty
  have nonempty := ((conforms_ofSource kind source).elements element member).1.name.nonempty
  rw [empty] at nonempty
  exact nonempty rfl

/-! ## What each kind declares -/

/-- Without rules for methods and literals, an element is what was declared and the
attributes of its block. -/
theorem LineRules.withoutAttributes_blockElement {rules : LineRules} {declared : Element}
    (bare : declared.Bare) (body : List (List Char)) (noMethod : rules.method? = fun _ => none)
    (noLiteral : rules.literal? = fun _ => none) :
    (rules.blockElement (declared, body)).withoutAttributes = declared := by
  have members : rules.members body = { attributes := (rules.members body).attributes } := by
    simp [LineRules.members, noMethod, noLiteral]
  rw [blockElement_eq bare, members]
  obtain ⟨type, name, aliasName, isAbstract, stereotype, attributes, methods, values⟩ := declared
  have empty : attributes = [] := bare.attributes
  simp [Element.addMembers, Element.withoutAttributes, empty]

/-- Apart from their attributes, elements of a kind without methods and literals are
declared line by line. -/
theorem Model.map_withoutAttributes {kind : DiagramKind}
    (noMethod : kind.rules.method? = fun _ => none)
    (noLiteral : kind.rules.literal? = fun _ => none) (source : String) :
    (Model.ofSource kind source).elements.map Element.withoutAttributes =
      (contentLines source.toList).filterMap kind.rules.declaration? := by
  rw [elements_eq_blocks, ← LineRules.map_fst_blocks, List.map_map]
  apply List.map_congr_left
  rintro ⟨declared, body⟩ member
  obtain ⟨⟨line, -, declares⟩, -⟩ := LineRules.exists_declaration_of_mem_blocks member
  exact LineRules.withoutAttributes_blockElement (DiagramKind.bare_of_declaration? declares) body
    noMethod noLiteral

/-- Taking the attributes away does not change the type. -/
theorem Model.map_withoutAttributes_ofType (model : Model) (type : String) :
    (model.ofType type).map Element.withoutAttributes =
      (model.elements.map Element.withoutAttributes).filter fun element => element.type = type := by
  rw [List.filter_map]
  rfl

/-- An element without members has no attributes to take away. -/
theorem Element.IsMemberless.withoutAttributes_eq {element : Element}
    (memberless : element.IsMemberless) : element.withoutAttributes = element := by
  obtain ⟨type, name, aliasName, isAbstract, stereotype, attributes, methods, values⟩ := element
  have empty : attributes = [] := memberless.attributes
  rw [withoutAttributes, empty]

/-- The elements of one type among those that a table declares in a source. -/
theorem filter_filterMap_readAny? {table : List (String × String)} {keyword type : String}
    (keywords : (table.map Prod.fst).Nodup) (types : (table.map Prod.snd).Nodup)
    (listed : (keyword, type) ∈ table) (source : String) :
    ((contentLines source.toList).filterMap fun line =>
        (Declaration.readAny? table line).map fun (type, declaration) =>
          declaration.element type).filter (fun element => element.type = type) =
      declaredBy keyword type source := by
  rw [List.filter_filterMap]
  exact List.filterMap_congr fun line _ =>
    Declaration.filter_readAny? keywords types listed line

/-- What a keyword of a role declares is what sequence diagrams have of its type. -/
theorem SequenceLine.declaredBy_eq {keyword type : String} (listed : (keyword, type) ∈ roles)
    (source : String) :
    ((Model.ofSource .sequence source).ofType type).map Element.withoutAttributes =
      declaredBy keyword type source := by
  rw [Model.map_withoutAttributes_ofType, Model.map_withoutAttributes rfl rfl]
  exact filter_filterMap_readAny? (by decide) (by decide) listed source

/-- What a keyword of use-case diagrams declares is what these have of its type. -/
theorem UseCaseLine.declaredBy_eq {keyword type : String} (listed : (keyword, type) ∈ keywords)
    (source : String) :
    ((Model.ofSource .useCase source).ofType type).map Element.withoutAttributes =
      declaredBy keyword type source := by
  rw [Model.map_withoutAttributes_ofType, Model.map_withoutAttributes rfl rfl]
  exact filter_filterMap_readAny? (by decide) (by decide) listed source

/-- Entity diagrams have what the keyword of entities declares, with attributes. -/
theorem EntityLine.declaredBy_eq (source : String) :
    ((Model.ofSource .entityRelationship source).ofType "Entity").map Element.withoutAttributes =
      declaredBy "entity" "Entity" source := by
  rw [Model.map_withoutAttributes_ofType, Model.map_withoutAttributes rfl rfl, declaredBy]
  apply List.filter_eq_self.2
  intro element member
  obtain ⟨line, -, declares⟩ := List.mem_filterMap.1 member
  obtain ⟨declaration, -, rfl⟩ := Option.map_eq_some_iff.1 declares
  rfl

/-- Elements of sequence diagrams and of use-case diagrams have no attributes. -/
theorem Model.map_withoutAttributes_ofType_eq_self {kind : DiagramKind}
    (memberless : kind ∈ [DiagramKind.sequence, .useCase]) (source type : String) :
    ((ofSource kind source).ofType type).map Element.withoutAttributes =
      (ofSource kind source).ofType type := by
  have same : ∀ element ∈ (ofSource kind source).ofType type,
      element.withoutAttributes = element := by
    intro element member
    have allowed :=
      ((conforms_ofSource kind source).elements element (List.mem_filter.1 member).1).2
    simp only [List.mem_cons, List.not_mem_nil, or_false] at memberless
    rcases memberless with rfl | rfl
    · exact allowed.2.withoutAttributes_eq
    · exact allowed.2.withoutAttributes_eq
  rw [List.map_congr_left same, List.map_id']

/-! ## The main statement -/

/-- Two models have the same elements of a type, in the same order and with the same
identifiers, apart from attributes. -/
structure Model.Share (type : String) (first second : Model) : Prop where
  elements : (first.ofType type).map Element.withoutAttributes =
    (second.ofType type).map Element.withoutAttributes
  ids : ∀ base, first.idsOfType base type = second.idsOfType base type

/-- Identifiers do not depend on attributes. -/
theorem Model.share_ofSource {first second : DiagramKind} {source type : String}
    {declared : List Element}
    (one : ((ofSource first source).ofType type).map Element.withoutAttributes = declared)
    (other : ((ofSource second source).ofType type).map Element.withoutAttributes = declared) :
    Model.Share type (ofSource first source) (ofSource second source) where
  elements := one.trans other.symm
  ids base := by
    have minted (kind : DiagramKind) : (ofSource kind source).idsOfType base type =
        (((ofSource kind source).ofType type).map Element.withoutAttributes).map fun element =>
          mint base (element.aliasName.getD element.name) := by
      rw [idsOfType_eq (name_ne_empty kind source), List.map_map]
      rfl
    rw [minted, minted, one, other]

/-- Use-case diagrams have the actors of sequence diagrams, and entity diagrams their
entities, apart from attributes. So the actors of a source do not depend on which of
the first two kinds it is taken for, nor its entities on which of the other two, and
they get the same identifiers. -/
theorem declarations_shared (source : String) :
    (Model.ofSource .useCase source).ofType "Actor" =
        (Model.ofSource .sequence source).ofType "Actor" ∧
      ((Model.ofSource .entityRelationship source).ofType "Entity").map
          Element.withoutAttributes =
        (Model.ofSource .sequence source).ofType "Entity" ∧
      ∀ model, parse source = .ok model →
        (model.kind ∈ [.sequence, .useCase] → ∀ kind ∈ [DiagramKind.sequence, .useCase],
          Model.Share "Actor" model (Model.ofSource kind source)) ∧
        (model.kind ∈ [.sequence, .entityRelationship] →
          ∀ kind ∈ [DiagramKind.sequence, .entityRelationship],
            Model.Share "Entity" model (Model.ofSource kind source)) := by
  have actors : ∀ kind ∈ [DiagramKind.sequence, .useCase],
      ((Model.ofSource kind source).ofType "Actor").map Element.withoutAttributes =
        declaredBy "actor" "Actor" source := by
    simp only [List.forall_mem_cons]
    exact ⟨SequenceLine.declaredBy_eq (by decide) source,
      UseCaseLine.declaredBy_eq (by decide) source, nofun⟩
  have entities : ∀ kind ∈ [DiagramKind.sequence, .entityRelationship],
      ((Model.ofSource kind source).ofType "Entity").map Element.withoutAttributes =
        declaredBy "entity" "Entity" source := by
    simp only [List.forall_mem_cons]
    exact ⟨SequenceLine.declaredBy_eq (by decide) source, EntityLine.declaredBy_eq source, nofun⟩
  have plain (kind : DiagramKind) (memberless : kind ∈ [DiagramKind.sequence, .useCase])
      (type : String) := Model.map_withoutAttributes_ofType_eq_self memberless source type
  refine ⟨?_, ?_, ?_⟩
  · rw [← plain .useCase (by decide), ← plain .sequence (by decide), actors _ (by decide),
      actors _ (by decide)]
  · rw [← plain .sequence (by decide), entities _ (by decide), entities _ (by decide)]
  · intro model parsed
    obtain ⟨own, rfl⟩ := exists_ofSource_of_parse parsed
    constructor
    · intro among kind listed
      exact Model.share_ofSource (actors own among) (actors kind listed)
    · intro among kind listed
      exact Model.share_ofSource (entities own among) (entities kind listed)

/-- Actors and entities around an attribute and a message that is also a link. -/
def counterSource : String :=
  "@startuml\nactor \"Shop clerk\" as Clerk\nentity Order as O\n* id : number\n" ++
    "Clerk --> O : writes\nactor Guest\n@enduml"

theorem declarations_of_counterSource_shared :
    parse counterSource = .ok (Model.ofSource .useCase counterSource) ∧
      Model.Share "Actor" (Model.ofSource .useCase counterSource)
        (Model.ofSource .sequence counterSource) ∧
      (Model.ofSource .sequence counterSource).ofType "Actor" =
        [ { type := "Actor", name := "Shop clerk", aliasName := some "Clerk" },
          { type := "Actor", name := "Guest" } ] ∧
      (Model.ofSource .entityRelationship counterSource).ofType "Entity" =
        [ { type := "Entity", name := "Order", aliasName := some "O"
            attributes := [{ name := "id", datatype := some "number" }] } ] := by
  have detected : detect counterSource = .ok .useCase := by decide +kernel
  have parsed : parse counterSource = .ok (Model.ofSource .useCase counterSource) := by
    rw [parse, detected]
    rfl
  have shared := (declarations_shared counterSource).2.2 _ parsed
  exact ⟨parsed, shared.1 (by decide) .sequence (by decide), by decide +kernel, by decide +kernel⟩

end DiagramGraph
