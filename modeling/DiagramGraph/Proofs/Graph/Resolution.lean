import DiagramGraph.Proofs.Graph.Identifier
import DiagramGraph.Proofs.Graph.View

/-!
# References resolve

The identifiers that stand in a document are those of its nodes. If the
elements of a model can be told apart by their names, all identifiers in the
document are distinct, and the ends of a relationship lead to the elements that
it names and nowhere else.
-/

namespace DiagramGraph

open DiagramGraph.Json

/-! ## Identifiers in a document -/

/-- The identifiers in a document are those of the nodes, in order. -/
theorem Graph.map_textAt?_id (graph : Graph) (context : Context) :
    ((graph.document context).entries.map fun entry => entry.textAt? "@id") =
      graph.ids.map some := by
  rw [Graph.entries_document, Graph.ids]
  simp only [List.map_cons, List.map_append, List.map_map]
  rfl

/-- The ends of a relationship node as they stand in a document. -/
theorem textAt?_ends (node : RelationshipNode) :
    (node.toJson.textAt? "source", node.toJson.textAt? "target") =
      (some node.source, some node.target) :=
  rfl

/-- The ends of the relationships in a document, behind the diagram and the
elements. -/
theorem Graph.map_textAt?_ends (graph : Graph) (context : Context) :
    ((graph.document context).entries.drop (graph.elements.length + 1)).map
        (fun entry => (entry.textAt? "source", entry.textAt? "target")) =
      graph.relationships.map fun node => (some node.source, some node.target) := by
  have behind :
      (graph.document context).entries.drop (graph.elements.length + 1) =
        graph.relationships.map RelationshipNode.toJson := by
    rw [Graph.entries_document, List.drop_succ_cons]
    exact List.drop_left' (by simp)
  rw [behind, List.map_map]
  exact List.map_congr_left fun node _ => textAt?_ends node

/-! ## Identifiers and their parts -/

/-- A text that an identifier may have behind the mark. -/
def IsLocalPart (text : List Char) : Prop :=
  ∀ char ∈ text, char.isAlphanum = true ∨ char = '_'

theorem isLocalPart_localPart (name : String) : IsLocalPart (localPart name) := by
  intro char member
  have word := Identifier.isAsciiWord_of_mem_sanitize member
  simpa [Text.isAsciiWord] using word

/-- Every minted identifier is the diagram's identifier with a mark and a local
part. -/
theorem mint_eq_append (base name : String) :
    mint base name =
      String.ofList (Identifier.diagram base.toList) ++ "#" ++
        String.ofList (localPart name) := by
  have marked : '#' :: Identifier.sanitize name.toList =
      ['#'] ++ Identifier.sanitize name.toList := rfl
  rw [mint, Identifier.mint_eq, marked, String.ofList_append, String.ofList_append,
    ← String.append_assoc]
  rfl

/-- A mark behind a base that does not end in one changes nothing in the
document. -/
theorem documentText_append_mark {base : String} (unmarked : base.toList.getLast? ≠ some '#')
    (model : Model) (context : Context) :
    model.documentText context (base ++ "#") = model.documentText context base := by
  have same :
      Identifier.normalize (base ++ "#").toList = Identifier.normalize base.toList := by
    rw [String.toList_append]
    exact Identifier.normalize_append_mark unmarked
  have minted : mint (base ++ "#") = mint base := by
    funext name
    rw [mint, mint, Identifier.mint, Identifier.mint, same]
  have graphs : Graph.ofModel (base ++ "#") model = Graph.ofModel base model := by
    have diagrams : DiagramNode.ofModel (base ++ "#") model = DiagramNode.ofModel base model := by
      simp only [DiagramNode.ofModel, Identifier.diagram, same]
    have elements : ElementNode.ofElement (base ++ "#") = ElementNode.ofElement base := by
      funext index element
      simp [ElementNode.ofElement, minted]
    have relationships :
        RelationshipNode.ofRelationship (base ++ "#") = RelationshipNode.ofRelationship base := by
      funext index relationship
      simp [RelationshipNode.ofRelationship, minted]
    rw [Graph.ofModel, Graph.ofModel, diagrams, elements, relationships]
  rw [Model.documentText, Model.documentText, graphs]

/-! ## The main statement -/

/-- Identifiers and references of a document. All identifiers but the diagram's
own are the latter with a mark and a local part; a mark behind the base makes no
difference; and if the elements are distinguished, all identifiers are distinct
and both ends of every relationship are resolved. -/
theorem Graph.references_resolve (model : Model) (context : Context) (base : String) :
    (((Graph.ofModel base model).document context).entries.map
          (fun entry => entry.textAt? "@id") =
        (Graph.ofModel base model).ids.map some ∧
      (((Graph.ofModel base model).document context).entries.drop (model.elements.length + 1)).map
          (fun entry => (entry.textAt? "source", entry.textAt? "target")) =
        (Graph.ofModel base model).relationships.map
          fun node => (some node.source, some node.target)) ∧
      (∀ identifier ∈ (Graph.ofModel base model).elements.map ElementNode.id ++
          (Graph.ofModel base model).relationships.flatMap
            (fun node => [node.id, node.source, node.target]),
        ∃ part, IsLocalPart part ∧
          identifier = (Graph.ofModel base model).diagram.id ++ "#" ++ String.ofList part) ∧
      (base.toList.getLast? ≠ some '#' →
        model.documentText context (base ++ "#") = model.documentText context base) ∧
      (model.Distinguished →
        (Graph.ofModel base model).ids.Nodup ∧
          ∀ (index : Nat) (relationship : Relationship),
            model.relationships[index]? = some relationship →
            ∃ node : RelationshipNode,
              (Graph.ofModel base model).relationships[index]? = some node ∧
              (Graph.ofModel base model).Resolves model.localNames relationship.source
                node.source ∧
              (Graph.ofModel base model).Resolves model.localNames relationship.target
                node.target) := by
  refine ⟨⟨Graph.map_textAt?_id _ _, ?_⟩, ?_, fun unmarked => documentText_append_mark unmarked _ _,
    fun distinguished => ⟨distinguished.nodup_ids base, ?_⟩⟩
  · have ends := Graph.map_textAt?_ends (Graph.ofModel base model) context
    have size : (Graph.ofModel base model).elements.length = model.elements.length := by
      simp [Graph.ofModel]
    rwa [size] at ends
  · intro identifier member
    have minted : ∃ name, identifier = mint base name := by
      rcases List.mem_append.1 member with element | relationship
      · rw [map_id_elements_ofModel] at element
        obtain ⟨name, -, rfl⟩ := List.mem_map.1 element
        exact ⟨name, rfl⟩
      · obtain ⟨node, nodeMember, ends⟩ := List.mem_flatMap.1 relationship
        obtain ⟨index, relationship, rfl⟩ := List.mem_mapIdx.1 nodeMember
        simp only [List.mem_cons, List.not_mem_nil, or_false] at ends
        rcases ends with rfl | rfl | rfl
        · exact ⟨_, rfl⟩
        · exact ⟨_, rfl⟩
        · exact ⟨_, rfl⟩
    obtain ⟨name, rfl⟩ := minted
    exact ⟨localPart name, isLocalPart_localPart name, mint_eq_append base name⟩
  · intro index relationship found
    refine ⟨RelationshipNode.ofRelationship base index relationship, ?_,
      distinguished.resolves base relationship.source,
      distinguished.resolves base relationship.target⟩
    simp [Graph.ofModel, found]

/-- A named shop and a customer without a name, and the way between them. -/
def marketModel : Model :=
  { kind := .useCase
    elements :=
      [ { type := "UseCase", name := "Sell apples" },
        { type := "Actor", name := "" } ]
    relationships :=
      [ { kind := .association, source := "element_1", target := "Sell apples" } ] }

theorem marketModel_references_resolve :
    marketModel.Distinguished ∧
      (Graph.ofModel "urn:market" marketModel).ids.Nodup ∧
      marketModel.documentText (.iri "urn:context") "urn:market#" =
        marketModel.documentText (.iri "urn:context") "urn:market" ∧
      ∃ node : RelationshipNode,
        (Graph.ofModel "urn:market" marketModel).relationships[0]? = some node ∧
          (Graph.ofModel "urn:market" marketModel).Resolves marketModel.localNames "element_1"
            node.source := by
  have distinguished : marketModel.Distinguished :=
    { elements := by decide
      relationships := by decide }
  obtain ⟨-, -, marked, resolved⟩ :=
    Graph.references_resolve marketModel (.iri "urn:context") "urn:market"
  obtain ⟨distinct, ends⟩ := resolved distinguished
  obtain ⟨node, found, source, -⟩ := ends 0 _ rfl
  exact ⟨distinguished, distinct, marked (by decide), node, found, source⟩

end DiagramGraph
