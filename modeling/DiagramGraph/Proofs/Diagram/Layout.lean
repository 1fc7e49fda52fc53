import DiagramGraph.Proofs.Diagram.Codec
import DiagramGraph.Proofs.Json.RoundTrip

/-!
# The shape of written models

A written model has no numbers, its records have distinct names, and it opens
at most five containers at once: the model, its elements, an element, the
members of the element and a member. So every reader of JSON reads it back.
-/

namespace DiagramGraph

open DiagramGraph.Json DiagramGraph.Json.Value

variable {sort : Number → Prop} {bound : Nat}

theorem Attribute.fits_toJson (field : Attribute) : field.toJson.Fits sort 1 := by
  apply fits_sparse (by simp)
  simp only [List.forall_mem_cons]
  exact ⟨each_some (fits_string _), each_map fits_string, each_map (fun _ => fits_string _),
    each_map fits_string, nofun⟩

theorem Method.fits_toJson (method : Method) : method.toJson.Fits sort 1 := by
  apply fits_sparse (by simp)
  simp only [List.forall_mem_cons]
  exact ⟨each_some (fits_string _), each_map fits_string, each_map fits_string,
    each_map (fun _ => fits_string _), each_map fits_boolean, each_map fits_boolean, nofun⟩

theorem Element.fits_toJson (element : Element) : element.toJson.Fits sort 3 := by
  have attributes : ∀ item ∈ element.attributes.map Attribute.toJson, item.Fits sort 1 :=
    List.forall_mem_map.2 fun field _ => field.fits_toJson
  have methods : ∀ item ∈ element.methods.map Method.toJson, item.Fits sort 1 :=
    List.forall_mem_map.2 fun method _ => method.fits_toJson
  have values : ∀ value ∈ element.values.map fun values => Value.array (values.map Value.string),
      value.Fits sort 2 :=
    each_map fun _ => fits_array (List.forall_mem_map.2 fun text _ => fits_string text)
  apply fits_sparse (by simp)
  simp only [List.forall_mem_cons]
  exact ⟨each_some (fits_string _), each_some (fits_string _), each_map fits_string,
    each_map fits_boolean, each_map fits_string,
    each_nonEmptyArray (fun _ => fits_array attributes),
    each_nonEmptyArray (fun _ => fits_array methods), values, nofun⟩

theorem Relationship.fits_toJson (relationship : Relationship) :
    relationship.toJson.Fits sort 1 := by
  apply fits_sparse (by simp)
  simp only [List.forall_mem_cons]
  exact ⟨each_some (fits_string _), each_some (fits_string _), each_some (fits_string _),
    each_map fits_string, each_map (fun _ => fits_string _), each_map (fun _ => fits_string _),
    each_map fits_string, each_map fits_boolean, nofun⟩

theorem Model.fits_toJson (model : Model) : model.toJson.Fits sort 5 := by
  have elements : ∀ item ∈ model.elements.map Element.toJson, item.Fits sort 3 :=
    List.forall_mem_map.2 fun element _ => element.fits_toJson
  have relationships : ∀ item ∈ model.relationships.map Relationship.toJson, item.Fits sort 3 :=
    List.forall_mem_map.2 fun relationship _ => relationship.fits_toJson.mono (by decide)
  apply fits_sparse (by simp)
  simp only [List.forall_mem_cons]
  exact ⟨each_some (fits_string _), each_some (fits_array elements),
    each_some (fits_array relationships), nofun⟩

/-! ## Models in texts -/

/-- The model that a text holds, read with a given limit on open containers. -/
def Model.ofText? (limit : Nat) (text : String) : Option Model :=
  (read? limit text.toList).bind Model.ofJson?

/-- The text of a model in either layout, with separators behind it, is read as
the settled model. -/
theorem Model.ofText?_write {layout : Layout} (separating : layout.Separating) (model : Model)
    {limit : Nat} (room : 5 ≤ limit) {after : List Char}
    (blank : ∀ char ∈ after, isSeparator char = true) :
    ofText? limit (String.ofList (model.toJson.write layout 0 ++ after)) = some model.settled := by
  have fits : model.toJson.Fits Number.Exact limit := model.fits_toJson.mono room
  rw [ofText?, String.toList_ofList, read?_write_exact separating fits.1 fits.2 blank,
    Option.bind_some, Model.ofJson?_toJson]

end DiagramGraph
