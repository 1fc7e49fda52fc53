import DiagramGraph.Proofs.Diagram.Layout
import DiagramGraph.Proofs.Graph.View
import DiagramGraph.Proofs.Json.Double
import Mathlib.Data.List.Forall2

/-!
# What a document says

The document of a model is read back as an object with a context and a graph.
The graph has one entry for the diagram, then one for each element and one for
each relationship, in the order of the model. An entry has exactly the keys
that its node has something to say about, and never a null or an empty list.
-/

namespace DiagramGraph

open DiagramGraph.Json DiagramGraph.Json.Value

/-! ## Entries -/

namespace Json.Value

/-- The value is neither null nor an empty list. -/
def Solid (value : Value) : Prop :=
  value ≠ .null ∧ value ≠ .array []

/-- No field of the record is null or an empty list. -/
def Filled (entry : Value) : Prop :=
  ∀ key value, entry.at? key = some value → value.Solid

/-- How a list stands in a record: an empty list does not, and any other one is
an array of what stands for its items. -/
def Listed {α : Type} (stands : α → Value → Prop) (items : List α) (found : Option Value) : Prop :=
  if items = [] then found = none
  else ∃ entries, found = some (.array entries) ∧ List.Forall₂ stands items entries

end Json.Value

/-- How an attribute stands in a document. -/
structure Attribute.Emitted (field : Attribute) (entry : Value) : Prop where
  keys : entry.keys.Sublist ["@type", "name", "datatype", "visibility", "defaultValue"]
  type : entry.at? "@type" = some (.string "Attribute")
  name : entry.at? "name" = some (.string field.name)
  datatype : entry.at? "datatype" = field.datatype.map Value.string
  visibility : entry.at? "visibility" = field.visibility.map fun mark => .string mark.name
  defaultValue : entry.at? "defaultValue" = field.defaultValue.map Value.string
  filled : entry.Filled

/-- How a method stands in a document. -/
structure Method.Emitted (method : Method) (entry : Value) : Prop where
  keys : entry.keys.Sublist
    ["@type", "name", "parameters", "returnType", "visibility", "abstract", "static"]
  type : entry.at? "@type" = some (.string "Method")
  name : entry.at? "name" = some (.string method.name)
  parameters : entry.at? "parameters" = method.parameters.map Value.string
  returnType : entry.at? "returnType" = method.returnType.map Value.string
  visibility : entry.at? "visibility" = method.visibility.map fun mark => .string mark.name
  isAbstract : entry.at? "abstract" = method.isAbstract.map Value.boolean
  isStatic : entry.at? "static" = method.isStatic.map Value.boolean
  filled : entry.Filled

/-- How an element stands in a document, under an identifier. Only classes,
interfaces and entities have members there, only enumerations have values, and
participants other than actors repeat their type. -/
structure Element.Emitted (id : String) (element : Element) (entry : Value) : Prop where
  keys : entry.keys.Sublist
    ["@id", "@type", "name", "alias", "abstract", "stereotype", "attributes", "methods", "values",
      "participantType"]
  id : entry.at? "@id" = some (.string id)
  type : entry.at? "@type" = some (.string element.type)
  name : entry.at? "name" = if element.name = "" then none else some (.string element.name)
  aliasName : entry.at? "alias" = element.aliasName.map Value.string
  isAbstract : entry.at? "abstract" = element.isAbstract.map Value.boolean
  stereotype : entry.at? "stereotype" = element.stereotype.map Value.string
  attributes : Listed Attribute.Emitted
    (if element.type ∈ ["Class", "Interface", "Entity"] then element.attributes else [])
    (entry.at? "attributes")
  methods : Listed Method.Emitted
    (if element.type ∈ ["Class", "Interface", "Entity"] then element.methods else [])
    (entry.at? "methods")
  values : Listed (fun text value => value = .string text)
    (if element.type = "Enum" then element.values.getD [] else [])
    (entry.at? "values")
  participantType : entry.at? "participantType" =
    if element.type ∈ ["Participant", "Boundary", "Control", "Database"] then
      some (.string element.type)
    else none
  filled : entry.Filled

/-- How a relationship stands in a document, under an identifier and with the
identifiers of its ends. -/
structure Relationship.Emitted (id source target : String) (relationship : Relationship)
    (entry : Value) : Prop where
  keys : entry.keys.Sublist
    ["@id", "@type", "source", "target", "label", "message", "sourceCardinality",
      "targetCardinality", "synchronous"]
  id : entry.at? "@id" = some (.string id)
  type : entry.at? "@type" = some (.string relationship.kind.name)
  source : entry.at? "source" = some (.string source)
  target : entry.at? "target" = some (.string target)
  label : entry.at? "label" = relationship.label.map Value.string
  message : entry.at? "message" = relationship.message.map Value.string
  sourceCardinality : entry.at? "sourceCardinality" =
    relationship.sourceCardinality.map fun cardinality => .string cardinality.text
  targetCardinality : entry.at? "targetCardinality" =
    relationship.targetCardinality.map fun cardinality => .string cardinality.text
  synchronous : entry.at? "synchronous" = relationship.synchronous.map Value.boolean
  filled : entry.Filled

/-- How the diagram as a whole stands in its document. -/
structure Model.Headed (model : Model) (id : String) (entry : Value) : Prop where
  keys : entry.keys = ["@id", "@type", "elementCount", "relationshipCount"]
  id : entry.at? "@id" = some (.string id)
  type : entry.at? "@type" = some (.string (model.kind.name ++ "Diagram"))
  elementCount : entry.at? "elementCount" = some (.natural model.elements.length)
  relationshipCount : entry.at? "relationshipCount" = some (.natural model.relationships.length)

/-- What the document of a model says. -/
structure Model.Emitted (model : Model) (context : Value) (base : String) (document : Value) :
    Prop where
  keys : document.keys = ["@context", "@graph"]
  context : document.at? "@context" = some context
  size : document.entries.length = 1 + model.elements.length + model.relationships.length
  head : ∃ entry, document.entries[0]? = some entry ∧
    model.Headed (String.ofList (Identifier.diagram base.toList)) entry
  elements : ∀ (index : Nat) (element : Element), model.elements[index]? = some element →
    ∃ entry, document.entries[1 + index]? = some entry ∧
      element.Emitted (mint base (element.localName index)) entry
  relationships : ∀ (index : Nat) (relationship : Relationship),
    model.relationships[index]? = some relationship →
    ∃ entry, document.entries[1 + model.elements.length + index]? = some entry ∧
      relationship.Emitted (mint base (relationshipName index)) (mint base relationship.source)
        (mint base relationship.target) entry

/-! ## Records in an entry -/

namespace Json.Value

theorem solid_string (text : String) : (Value.string text).Solid :=
  ⟨nofun, nofun⟩

theorem solid_boolean (value : Bool) : (Value.boolean value).Solid :=
  ⟨nofun, nofun⟩

theorem solid_nonEmptyArray {items : List Value} :
    ∀ value ∈ nonEmptyArray items, value.Solid :=
  each_nonEmptyArray fun nonempty => ⟨nofun, fun empty => nonempty (Value.array.inj empty)⟩

theorem filled_sparse {fields : List (String × Option Value)}
    (distinct : (fields.map Prod.fst).Nodup)
    (each : ∀ field ∈ fields, ∀ value ∈ field.2, value.Solid) : (sparse fields).Filled := by
  intro key value found
  rw [at?_sparse key distinct, Option.join_eq_some_iff] at found
  obtain ⟨before, after, rfl, -⟩ := List.lookup_eq_some_iff.1 found
  exact each (key, some value) (by simp) value rfl

theorem listed_nonEmptyArray {α : Type} {stands : α → Value → Prop} {write : α → Value}
    (each : ∀ item, stands item (write item)) (items : List α) :
    Listed stands items (nonEmptyArray (items.map write)) := by
  cases items with
  | nil => rfl
  | cons item items =>
      rw [Listed, if_neg (List.cons_ne_nil item items)]
      refine ⟨_, rfl, ?_⟩
      exact List.forall₂_map_right_iff.2 (List.forall₂_same.2 fun item _ => each item)

end Json.Value

/-- A record with a type in front of its fields. -/
theorem typed_sparse (type : String) (fields : List (String × Option Value)) :
    typed type (sparse fields) = sparse (("@type", some (.string type)) :: fields) :=
  rfl

theorem Attribute.emitted (field : Attribute) :
    field.Emitted (typed "Attribute" field.toJson) := by
  rw [Attribute.toJson, typed_sparse]
  exact
    { keys := keys_sparse_sublist _
      type := at?_sparse _ (by simp)
      name := at?_sparse _ (by simp)
      datatype := at?_sparse _ (by simp)
      visibility := at?_sparse _ (by simp)
      defaultValue := at?_sparse _ (by simp)
      filled := by
        apply filled_sparse (by simp)
        simp only [List.forall_mem_cons]
        exact ⟨each_some (solid_string _), each_some (solid_string _), each_map solid_string,
          each_map (fun _ => solid_string _), each_map solid_string, nofun⟩ }

theorem Method.emitted (method : Method) : method.Emitted (typed "Method" method.toJson) := by
  rw [Method.toJson, typed_sparse]
  exact
    { keys := keys_sparse_sublist _
      type := at?_sparse _ (by simp)
      name := at?_sparse _ (by simp)
      parameters := at?_sparse _ (by simp)
      returnType := at?_sparse _ (by simp)
      visibility := at?_sparse _ (by simp)
      isAbstract := at?_sparse _ (by simp)
      isStatic := at?_sparse _ (by simp)
      filled := by
        apply filled_sparse (by simp)
        simp only [List.forall_mem_cons]
        exact ⟨each_some (solid_string _), each_some (solid_string _), each_map solid_string,
          each_map solid_string, each_map (fun _ => solid_string _), each_map solid_boolean,
          each_map solid_boolean, nofun⟩ }

/-- The node of an element is what the document should say about it. -/
theorem Element.emitted (base : String) (index : Nat) (element : Element) :
    element.Emitted (mint base (element.localName index))
      (ElementNode.ofElement base index element).toJson := by
  rw [ElementNode.toJson]
  exact
    { keys := keys_sparse_sublist _
      id := at?_sparse _ (by simp)
      type := at?_sparse _ (by simp)
      name := by
        apply (at?_sparse _ (by simp)).trans
        exact apply_ite textValue (element.name = "") none (some element.name)
      aliasName := at?_sparse _ (by simp)
      isAbstract := at?_sparse _ (by simp)
      stereotype := at?_sparse _ (by simp)
      attributes := by
        rw [at?_sparse _ (by simp)]
        exact listed_nonEmptyArray Attribute.emitted _
      methods := by
        rw [at?_sparse _ (by simp)]
        exact listed_nonEmptyArray Method.emitted _
      values := by
        rw [at?_sparse _ (by simp)]
        apply listed_nonEmptyArray
        exact fun _ => rfl
      participantType := by
        apply (at?_sparse _ (by simp)).trans
        exact apply_ite textValue (element.type ∈ participantTypes) (some element.type) none
      filled := by
        apply filled_sparse (by simp)
        simp only [List.forall_mem_cons]
        exact ⟨each_some (solid_string _), each_some (solid_string _), each_map solid_string,
          each_map solid_string, each_map solid_boolean, each_map solid_string, solid_nonEmptyArray,
          solid_nonEmptyArray, solid_nonEmptyArray, each_map solid_string, nofun⟩ }

theorem Relationship.emitted (base : String) (index : Nat) (relationship : Relationship) :
    relationship.Emitted (mint base (relationshipName index)) (mint base relationship.source)
      (mint base relationship.target)
      (RelationshipNode.ofRelationship base index relationship).toJson := by
  rw [RelationshipNode.toJson]
  exact
    { keys := keys_sparse_sublist _
      id := at?_sparse _ (by simp)
      type := at?_sparse _ (by simp)
      source := at?_sparse _ (by simp)
      target := at?_sparse _ (by simp)
      label := at?_sparse _ (by simp)
      message := at?_sparse _ (by simp)
      sourceCardinality := at?_sparse _ (by simp)
      targetCardinality := at?_sparse _ (by simp)
      synchronous := at?_sparse _ (by simp)
      filled := by
        apply filled_sparse (by simp)
        simp only [List.forall_mem_cons]
        exact ⟨each_some (solid_string _), each_some (solid_string _), each_some (solid_string _),
          each_some (solid_string _), each_map solid_string, each_map solid_string,
          each_map (fun _ => solid_string _), each_map (fun _ => solid_string _),
          each_map solid_boolean, nofun⟩ }

theorem Model.headed (base : String) (model : Model) :
    model.Headed (String.ofList (Identifier.diagram base.toList))
      (DiagramNode.ofModel base model).toJson where
  keys := rfl
  id := rfl
  type := rfl
  elementCount := rfl
  relationshipCount := rfl

/-- The document that is written for a model. -/
theorem Model.emitted (base : String) (model : Model) (context : Context) :
    model.Emitted context.toJson base ((Graph.ofModel base model).document context) where
  keys := rfl
  context := rfl
  size := by
    rw [Graph.entries_document]
    simp [Graph.ofModel]
    omega
  head := ⟨_, rfl, model.headed base⟩
  elements := by
    intro index element found
    refine ⟨_, ?_, element.emitted base index⟩
    have inside : index < model.elements.length := (List.getElem?_eq_some_iff.1 found).1
    rw [Graph.entries_document, Nat.add_comm, List.getElem?_cons_succ,
      List.getElem?_append_left (by simpa [Graph.ofModel] using inside)]
    simp [Graph.ofModel, found]
  relationships := by
    intro index relationship found
    refine ⟨_, ?_, relationship.emitted base index⟩
    have size : ((Graph.ofModel base model).elements.map ElementNode.toJson).length =
        model.elements.length := by
      simp [Graph.ofModel]
    rw [Graph.entries_document, Nat.add_assoc, Nat.add_comm, List.getElem?_cons_succ,
      List.getElem?_append_right (by omega), size]
    simp [Graph.ofModel, found]

/-! ## The shape of a document -/

variable {sort : Number → Prop} {bound : Nat}

theorem Attribute.fits_typed (field : Attribute) :
    (typed "Attribute" field.toJson).Fits sort 1 := by
  rw [Attribute.toJson, typed_sparse]
  apply fits_sparse (by simp)
  simp only [List.forall_mem_cons]
  exact ⟨each_some (fits_string _), each_some (fits_string _), each_map fits_string,
    each_map (fun _ => fits_string _), each_map fits_string, nofun⟩

theorem Method.fits_typed (method : Method) : (typed "Method" method.toJson).Fits sort 1 := by
  rw [Method.toJson, typed_sparse]
  apply fits_sparse (by simp)
  simp only [List.forall_mem_cons]
  exact ⟨each_some (fits_string _), each_some (fits_string _), each_map fits_string,
    each_map fits_string, each_map (fun _ => fits_string _), each_map fits_boolean,
    each_map fits_boolean, nofun⟩

theorem ElementNode.fits_toJson (node : ElementNode) : node.toJson.Fits sort 3 := by
  have attributes : ∀ item ∈ node.attributes.map fun field => typed "Attribute" field.toJson,
      item.Fits sort 1 :=
    List.forall_mem_map.2 fun field _ => field.fits_typed
  have methods : ∀ item ∈ node.methods.map fun method => typed "Method" method.toJson,
      item.Fits sort 1 :=
    List.forall_mem_map.2 fun method _ => method.fits_typed
  have values : ∀ item ∈ node.values.map Value.string, item.Fits sort 1 :=
    List.forall_mem_map.2 fun text _ => fits_string text
  apply fits_sparse (by simp)
  simp only [List.forall_mem_cons]
  exact ⟨each_some (fits_string _), each_some (fits_string _), each_map fits_string,
    each_map fits_string, each_map fits_boolean, each_map fits_string,
    each_nonEmptyArray (fun _ => fits_array attributes),
    each_nonEmptyArray (fun _ => fits_array methods),
    each_nonEmptyArray (fun _ => fits_array values), each_map fits_string, nofun⟩

theorem RelationshipNode.fits_toJson (node : RelationshipNode) : node.toJson.Fits sort 1 := by
  apply fits_sparse (by simp)
  simp only [List.forall_mem_cons]
  exact ⟨each_some (fits_string _), each_some (fits_string _), each_some (fits_string _),
    each_some (fits_string _), each_map fits_string, each_map fits_string,
    each_map (fun _ => fits_string _), each_map (fun _ => fits_string _), each_map fits_boolean,
    nofun⟩

theorem fits_natural {value : Nat} (accepted : sort (.integer value)) :
    (Value.natural value).Fits sort bound :=
  ⟨.number accepted, Nat.zero_le bound⟩

/-- The numbers of elements and of relationships are of a certain sort. -/
structure Model.Counted (sort : Number → Prop) (model : Model) : Prop where
  elements : sort (.integer model.elements.length)
  relationships : sort (.integer model.relationships.length)

/-- There are fewer elements and relationships than a word can count. -/
structure Model.Countable (model : Model) : Prop where
  elements : model.elements.length < 2 ^ 64
  relationships : model.relationships.length < 2 ^ 64

theorem Model.Countable.counted {model : Model} (countable : model.Countable) :
    model.Counted Number.Exact := by
  obtain ⟨elements, relationships⟩ := countable
  exact ⟨.integer ⟨by omega, by omega⟩, .integer ⟨by omega, by omega⟩⟩

theorem DiagramNode.fits_toJson {model : Model} (counted : model.Counted sort) (base : String) :
    (DiagramNode.ofModel base model).toJson.Fits sort 1 := by
  apply fits_sparse (by simp)
  simp only [List.forall_mem_cons]
  exact ⟨each_some (fits_string _), each_some (fits_string _),
    each_some (fits_natural counted.elements), each_some (fits_natural counted.relationships),
    nofun⟩

theorem Graph.fits_toJson {model : Model} (counted : model.Counted sort) (base : String) :
    (Graph.ofModel base model).toJson.Fits sort 4 := by
  apply fits_array
  intro item member
  simp only [List.cons_append, List.mem_cons, List.mem_append, List.mem_map] at member
  rcases member with rfl | ⟨node, -, rfl⟩ | ⟨node, -, rfl⟩
  · exact (DiagramNode.fits_toJson counted base).mono (by decide)
  · exact node.fits_toJson
  · exact node.fits_toJson.mono (by decide)

/-- A document fits into what a reader of JSON accepts if its context does. -/
theorem Graph.fits_document_of_counted {model : Model} (counted : model.Counted sort)
    {context : Context} (fits : context.toJson.Fits sort 126) (base : String) :
    ((Graph.ofModel base model).document context).Fits sort Context.depthLimit := by
  have graph := (Graph.fits_toJson counted base).mono (show 4 ≤ 126 by decide)
  apply fits_object (by simp)
  simp only [List.forall_mem_cons]
  exact ⟨fits, graph, nofun⟩

/-! ## Reading a document -/

/-- A context that is itself a JSON value, and can be nested one level deeper. -/
def Context.Fits (context : Context) : Prop :=
  context.toJson.Fits Number.Proper 126

/-- The document with the numbers of its context as they are read back. -/
theorem Graph.settled_document {model : Model} (countable : model.Countable) (context : Context)
    (base : String) :
    ((Graph.ofModel base model).document context).settled =
      (Graph.ofModel base model).document (.inline context.toJson.settled) := by
  have same : (Graph.ofModel base model).toJson.settled = (Graph.ofModel base model).toJson :=
    Value.mapNumbers_eq_self (fun _ exact => exact.settled) (fits_toJson countable.counted base).1
  calc
    _ = Value.object
          [ ("@context", context.toJson.settled),
            ("@graph", (Graph.ofModel base model).toJson.settled) ] := rfl
    _ = _ := by
          rw [same]
          rfl

/-- A document can be read if its context can. -/
theorem Graph.fits_document {model : Model} (countable : model.Countable) {context : Context}
    (fits : context.Fits) (base : String) :
    ((Graph.ofModel base model).document context).Fits Number.Legible Context.depthLimit := by
  have counted : model.Counted Number.Legible :=
    ⟨countable.counted.elements.legible, countable.counted.relationships.legible⟩
  exact fits_document_of_counted counted ⟨fits.1.mono fun _ proper => proper.legible, fits.2⟩ base

/-- The document of a model is read back as an object that says exactly what the
model says. -/
theorem Model.read_documentText (model : Model) (context : Context) (base : String)
    (countable : model.Countable) (fits : context.Fits) :
    ∃ document, read? Context.depthLimit (model.documentText context base).toList = some document ∧
      model.Emitted context.toJson.settled base document := by
  refine ⟨(Graph.ofModel base model).document (.inline context.toJson.settled), ?_,
    model.emitted base (.inline context.toJson.settled)⟩
  have wellFormed := Graph.fits_document countable fits base
  have read : read? Context.depthLimit (_ ++ []) = some _ :=
    read?_write Layout.separating_indented wellFormed.1 wellFormed.2 (by simp)
  rw [List.append_nil, Graph.settled_document countable] at read
  rw [Model.documentText, Value.indented, String.toList_ofList]
  exact read

/-- A control that asks a database, with a name that needs escapes. -/
def archiveModel : Model :=
  { kind := .sequence
    elements :=
      [ { type := "Control", name := "the \"clerk\"\n", aliasName := some "clerk" },
        { type := "Database", name := "" } ]
    relationships :=
      [ { kind := .message
          source := "clerk"
          target := "element_1"
          message := some "fetch"
          synchronous := some false } ] }

/-- A context that keeps a vocabulary and a version, which is 1.5. -/
def archiveContext : Context :=
  .inline
    (.object
      [ ("@vocab", .string "urn:archive:"),
        ("version", .number (.double false ⟨0x18000000000000, -52⟩)) ])

theorem archiveModel_read_documentText :
    archiveModel.Countable ∧ archiveContext.Fits ∧
      ∃ document,
        read? Context.depthLimit
            (archiveModel.documentText archiveContext "urn:archive").toList = some document ∧
          archiveModel.Emitted archiveContext.toJson.settled "urn:archive" document := by
  have countable : archiveModel.Countable := ⟨by decide, by decide⟩
  have version : (Value.number (.double false ⟨0x18000000000000, -52⟩)).Fits Number.Proper 125 :=
    ⟨.number (.double false ⟨by decide, by decide⟩), Nat.zero_le _⟩
  have fits : archiveContext.Fits := by
    apply fits_object (by decide)
    simp only [List.forall_mem_cons]
    exact ⟨fits_string _, version, nofun⟩
  exact ⟨countable, fits, Model.read_documentText _ _ _ countable fits⟩

end DiagramGraph
