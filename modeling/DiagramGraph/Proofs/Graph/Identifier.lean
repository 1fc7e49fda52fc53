import DiagramGraph.Graph.Document
import DiagramGraph.Proofs.Json.Record
import Mathlib.Data.List.Nodup

/-!
# Identifiers tell nodes apart

The identifier of a node is the identifier of the diagram, a `#` and a local
part. Two names get the same identifier exactly if they have the same local
part; so nodes are told apart, and references are resolved, as far as the local
parts of the names are distinct.
-/

namespace DiagramGraph

open DiagramGraph.Json DiagramGraph.Text

namespace Identifier

/-! ## Local parts -/

theorem isAsciiWord_of_mem_sanitize {name : List Char} {char : Char}
    (member : char ∈ sanitize name) : isAsciiWord char = true := by
  obtain ⟨original, -, rfl⟩ := List.mem_map.1 member
  by_cases word : isAsciiWord original = true
  · rw [if_pos word]
    exact word
  · rw [if_neg word]
    rfl

/-- A name of ASCII word characters is its own local part. -/
theorem sanitize_of_isAsciiWord {name : List Char}
    (word : ∀ char ∈ name, isAsciiWord char = true) : sanitize name = name := by
  calc
    _ = name.map id := List.map_congr_left fun char member => by simp [word char member]
    _ = name := List.map_id name

/-- A numbered word of ASCII word characters is its own local part. -/
theorem sanitize_numbered {word : String} (index : Nat)
    (ascii : ∀ char ∈ word.toList, isAsciiWord char = true) :
    sanitize (numbered word index) = numbered word index := by
  apply sanitize_of_isAsciiWord
  intro char member
  simp only [numbered, List.mem_append, List.mem_cons] at member
  rcases member with member | rfl | member
  · exact ascii char member
  · decide
  · have digit := Nat.isDigit_of_mem_toDigits (by decide) (by decide) member
    simp [isAsciiWord, Char.isAlphanum, digit]

/-- The number of a numbered word can be told from its text. -/
theorem numbered_inj {word : String} {first second : Nat} :
    numbered word first = numbered word second ↔ first = second := by
  constructor
  · intro same
    have digits := List.append_cancel_left same
    rw [List.cons.injEq] at digits
    have values := congrArg (fun text => Nat.ofDigitChars 10 text 0) digits.2
    simpa using values
  · rintro rfl
    rfl

/-! ## Minting -/

/-- An identifier is the diagram's identifier, a mark and a local part. -/
theorem mint_eq (base name : List Char) :
    mint base name = diagram base ++ '#' :: sanitize name := by
  rw [mint, normalize_eq, List.append_assoc, List.singleton_append]

/-- Two names get the same identifier exactly if their local parts agree. -/
theorem mint_inj {base first second : List Char} :
    mint base first = mint base second ↔ sanitize first = sanitize second := by
  simp [mint]

theorem diagram_ne_mint (base name : List Char) : diagram base ≠ mint base name := by
  rw [mint_eq]
  intro same
  have lengths := congrArg List.length same
  simp at lengths

/-- A mark behind a base that does not end in one makes no difference. -/
theorem normalize_append_mark {base : List Char} (unmarked : base.getLast? ≠ some '#') :
    normalize (base ++ ['#']) = normalize base := by
  simp [normalize, unmarked]

end Identifier

/-! ## Names and identifiers of a graph -/

/-- The local part of a name. -/
def localPart (name : String) : List Char :=
  Identifier.sanitize name.toList

/-- The names by which the elements of a model are identified. -/
def Model.localNames (model : Model) : List String :=
  model.elements.mapIdx fun index element => element.localName index

/-- The names by which the relationships of a model are identified. -/
def Model.relationshipNames (model : Model) : List String :=
  (List.range model.relationships.length).map relationshipName

/-- The local parts of the elements' names are distinct, and none of them is the
name of a relationship. -/
structure Model.Distinguished (model : Model) : Prop where
  elements : (model.localNames.map localPart).Nodup
  relationships : ∀ name ∈ model.localNames, ∀ index < model.relationships.length,
    localPart name ≠ Identifier.numbered "relationship" index

/-- The identifiers of all nodes of a graph, in the order of the nodes. -/
def Graph.ids (graph : Graph) : List String :=
  graph.diagram.id ::
    (graph.elements.map ElementNode.id ++ graph.relationships.map RelationshipNode.id)

theorem mint_inj {base first second : String} :
    mint base first = mint base second ↔ localPart first = localPart second := by
  rw [mint, mint, String.ofList_inj, Identifier.mint_inj, localPart, localPart]

theorem localPart_relationshipName (index : Nat) :
    localPart (relationshipName index) = Identifier.numbered "relationship" index := by
  rw [localPart, relationshipName, String.toList_ofList,
    Identifier.sanitize_numbered index (List.all_eq_true.1 (by decide))]

theorem map_id_elements_ofModel (base : String) (model : Model) :
    (Graph.ofModel base model).elements.map ElementNode.id = model.localNames.map (mint base) := by
  apply List.ext_getElem?
  intro index
  simp [Graph.ofModel, Model.localNames, ElementNode.ofElement, Function.comp_def]

theorem map_id_relationships_ofModel (base : String) (model : Model) :
    (Graph.ofModel base model).relationships.map RelationshipNode.id =
      model.relationshipNames.map (mint base) := by
  apply List.ext_getElem?
  intro index
  by_cases inside : index < model.relationships.length
  · simp [Graph.ofModel, Model.relationshipNames, RelationshipNode.ofRelationship, inside]
  · simp [Graph.ofModel, Model.relationshipNames, inside]

/-- The identifiers of a graph are minted from the names of its nodes. -/
theorem ids_ofModel (base : String) (model : Model) :
    (Graph.ofModel base model).ids =
      String.ofList (Identifier.diagram base.toList) ::
        (model.localNames ++ model.relationshipNames).map (mint base) := by
  rw [Graph.ids, map_id_elements_ofModel, map_id_relationships_ofModel, List.map_append]
  rfl

theorem nodup_localPart_relationshipNames (model : Model) :
    (model.relationshipNames.map localPart).Nodup := by
  rw [Model.relationshipNames, List.map_map]
  apply List.Nodup.map
  · intro first second same
    simpa [localPart_relationshipName, Identifier.numbered_inj] using same
  · exact List.nodup_range

/-! ## Distinct identifiers -/

/-- The local parts of all names of a model are distinct if its elements are
distinguished. -/
theorem Model.Distinguished.nodup_localPart {model : Model} (distinguished : model.Distinguished) :
    ((model.localNames ++ model.relationshipNames).map localPart).Nodup := by
  rw [List.map_append, List.nodup_append]
  refine ⟨distinguished.elements, nodup_localPart_relationshipNames model, ?_⟩
  intro first firstMember second secondMember
  obtain ⟨name, nameMember, rfl⟩ := List.mem_map.1 firstMember
  obtain ⟨numbered, numberedMember, rfl⟩ := List.mem_map.1 secondMember
  obtain ⟨index, inside, rfl⟩ := List.mem_map.1 numberedMember
  rw [localPart_relationshipName]
  exact distinguished.relationships name nameMember index (List.mem_range.1 inside)

/-- The nodes of a graph have distinct identifiers. -/
theorem Model.Distinguished.nodup_ids {model : Model} (distinguished : model.Distinguished)
    (base : String) : (Graph.ofModel base model).ids.Nodup := by
  rw [ids_ofModel, List.nodup_cons]
  constructor
  · intro member
    obtain ⟨name, -, same⟩ := List.mem_map.1 member
    exact Identifier.diagram_ne_mint _ _ (String.ofList_injective same).symm
  · have parts := distinguished.nodup_localPart
    have names := parts.of_map
    rw [List.nodup_map_iff_inj_on names] at parts ⊢
    intro first firstMember second secondMember same
    exact parts first firstMember second secondMember (mint_inj.1 same)

/-! ## References -/

/-- What it means that an identifier stands for a reference. If the reference is
the name of an element, the identifier is that of the element and of no other
node; if no element's name has the local part of the reference, the identifier
is that of no element. -/
structure Graph.Resolves (graph : Graph) (names : List String) (reference identifier : String) :
    Prop where
  named : ∀ position, names[position]? = some reference →
    ∀ place, graph.ids[place]? = some identifier ↔ place = position + 1
  unnamed : (∀ name ∈ names, localPart name ≠ localPart reference) →
    identifier ∉ graph.elements.map ElementNode.id

/-- The identifier of a name stands for references by that name. -/
theorem Model.Distinguished.resolves {model : Model} (distinguished : model.Distinguished)
    (base reference : String) :
    (Graph.ofModel base model).Resolves model.localNames reference (mint base reference) where
  named := by
    intro position named place
    have own : (Graph.ofModel base model).ids[position + 1]? = some (mint base reference) := by
      have inside : position < model.localNames.length :=
        (List.getElem?_eq_some_iff.1 named).1
      rw [ids_ofModel, List.getElem?_cons_succ, List.getElem?_map,
        List.getElem?_append_left inside, named]
      rfl
    constructor
    · intro found
      obtain ⟨inside, -⟩ := List.getElem?_eq_some_iff.1 found
      exact (List.getElem?_inj inside (distinguished.nodup_ids base)).1 (found.trans own.symm)
    · rintro rfl
      exact own
  unnamed := by
    intro foreign member
    rw [map_id_elements_ofModel] at member
    obtain ⟨name, nameMember, same⟩ := List.mem_map.1 member
    exact foreign name nameMember (mint_inj.1 same)

end DiagramGraph
