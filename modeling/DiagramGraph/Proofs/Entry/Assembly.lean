import DiagramGraph.Entry.Basic

/-!
# What an assembly keeps

The relationships of an assembled model are those of the entries, in order. So
are the elements, if there are no members among the entries.
-/

namespace DiagramGraph

/-- The relationship that an entry states. -/
def Entry.relationship? : Entry → Option Relationship
  | .relationship stated => some stated
  | _ => none

/-- The element that an entry declares, without members. -/
def Entry.element? : Entry → Option Element
  | .element declared => some declared
  | _ => none

/-- The entry is no member of an element. -/
def Entry.Standalone : Entry → Prop
  | .element _ => True
  | .relationship _ => True
  | _ => False

/-- An element with no further members is as it was. -/
theorem Element.addMembers_none (element : Element) : element.addMembers {} = element := by
  obtain ⟨type, name, aliasName, isAbstract, stereotype, attributes, methods, values⟩ := element
  simp [addMembers]

namespace Assembly

/-- An assembly has the relationships of the entries. -/
theorem relationships_ofEntries (entries : List Entry) :
    (ofEntries entries).relationships = entries.filterMap Entry.relationship? := by
  induction entries with
  | nil => rfl
  | cons entry entries ih =>
      rw [ofEntries, List.filterMap_cons]
      cases entry with
      | relationship stated => exact congrArg (stated :: ·) ih
      | element element => exact ih
      | field field => exact ih
      | method method => exact ih
      | literal text => exact ih

/-- Without members, an assembly has the elements of the entries as they were
declared, and nothing is left over. -/
theorem ofEntries_of_standalone {entries : List Entry}
    (standalone : ∀ entry ∈ entries, entry.Standalone) :
    ofEntries entries =
      { pending := {}
        elements := entries.filterMap Entry.element?
        relationships := entries.filterMap Entry.relationship? } := by
  induction entries with
  | nil => rfl
  | cons entry entries ih =>
      rw [List.forall_mem_cons] at standalone
      rw [ofEntries, ih standalone.2]
      cases entry with
      | element declared =>
          rw [push, Element.addMembers_none]
          rfl
      | relationship stated => rfl
      | field field => exact standalone.1.elim
      | method method => exact standalone.1.elim
      | literal text => exact standalone.1.elim

end Assembly

/-- Items that make an element or a relationship each are assembled into the model
of these. -/
theorem Model.ofEntries_map {Item : Type} {entry : Item → Entry} {element? : Item → Option Element}
    {relationship? : Item → Option Relationship} (standalone : ∀ item, (entry item).Standalone)
    (elements : ∀ item, (entry item).element? = element? item)
    (relationships : ∀ item, (entry item).relationship? = relationship? item)
    (kind : DiagramKind) (items : List Item) :
    Model.ofEntries kind (items.map entry) =
      { kind
        elements := items.filterMap element?
        relationships := items.filterMap relationship? } := by
  have each : ∀ made ∈ items.map entry, made.Standalone := by
    simp only [List.forall_mem_map]
    exact fun item _ => standalone item
  have elementsOf : Entry.element? ∘ entry = element? := funext elements
  have relationshipsOf : Entry.relationship? ∘ entry = relationship? := funext relationships
  rw [Model.ofEntries, Assembly.ofEntries_of_standalone each, List.filterMap_map,
    List.filterMap_map, elementsOf, relationshipsOf]

end DiagramGraph
