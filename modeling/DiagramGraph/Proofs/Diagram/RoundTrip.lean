import DiagramGraph.CommandLine.Run
import DiagramGraph.Proofs.Diagram.Canonical
import DiagramGraph.Proofs.Diagram.Layout
import DiagramGraph.Proofs.Graph.Conversion

/-!
# Models survive their JSON form

A model can be kept as a JSON text and taken up again. Canonical models come
back unchanged, and all models that are read from a source or from JSON are
canonical; so a document may just as well be built from what the program
printed about a source as from the source itself.
-/

namespace DiagramGraph

open DiagramGraph.CommandLine DiagramGraph.Json

theorem Model.ofText?_indented (model : Model) :
    ofText? Context.depthLimit model.toJson.indented = some model.settled := by
  have read : ofText? Context.depthLimit
      (String.ofList (model.toJson.write .indented 0 ++ [])) = some model.settled :=
    ofText?_write Layout.separating_indented model (by decide) (by simp)
  rwa [List.append_nil] at read

theorem Model.ofText?_compact (model : Model) :
    ofText? Context.depthLimit model.toJson.compact = some model.settled := by
  have read : ofText? Context.depthLimit
      (String.ofList (model.toJson.write .compact 0 ++ [])) = some model.settled :=
    ofText?_write Layout.separating_compact model (by decide) (by simp)
  rwa [List.append_nil] at read

/-- Printing a model never fails. -/
theorem modelOutcome_eq (model : Model) :
    modelOutcome model = .success (model.toJson.indented ++ "\n") := by
  rw [modelOutcome, Datum.indented_toDatum]

/-- What the program prints about a source is read as the model of the
source. -/
theorem Model.ofText?_printed (model : Model) :
    ofText? Context.depthLimit (model.toJson.indented ++ "\n") = some model.settled := by
  have read : ofText? Context.depthLimit
      (String.ofList (model.toJson.write .indented 0 ++ ['\n'])) = some model.settled :=
    ofText?_write Layout.separating_indented model (by decide) (by simp [isSeparator])
  rwa [String.ofList_append] at read

/-- A source with a directive has a kind. -/
theorem exists_detect {source : String} (start : Detection.directives source.toList ≠ []) :
    ∃ kind, detect source = .ok kind := by
  obtain ⟨word, member⟩ := List.exists_mem_of_ne_nil _ start
  obtain ⟨before, behind, directive, -⟩ := Detection.mem_directives_iff.1 member
  exact Detection.detect_of_directiveAt directive

/-- The JSON form of models loses nothing. A canonical model is read back
unchanged in either layout; models from sources and from JSON values are
canonical; the document of a source is the one built from what the program
prints about it; and a text that was written once is written again after
reading. -/
theorem Model.survives_json :
    (∀ model : Model, model.Canonical →
        ofText? Context.depthLimit model.toJson.indented = some model ∧
          ofText? Context.depthLimit model.toJson.compact = some model) ∧
      (∀ source model, parse source = .ok model → model.Canonical) ∧
      (∀ value model, ofJson? value = some model → model.Canonical) ∧
      (∀ source file, Detection.directives source.toList ≠ [] →
        ∃ text model,
          (Command.parse file).outcomeOn source = .success text ∧
            ofText? Context.depthLimit text = some model ∧
            ∀ context base, convert source context base = .ok (model.documentText context base)) ∧
      ∀ model : Model,
        (∃ back, ofText? Context.depthLimit model.toJson.indented = some back ∧
            back.toJson.indented = model.toJson.indented) ∧
          ∃ back, ofText? Context.depthLimit model.toJson.compact = some back ∧
            back.toJson.compact = model.toJson.compact := by
  refine ⟨?unchanged, ?parsed, ?read, ?document, ?rewritten⟩
  case unchanged =>
    intro model canonical
    rw [ofText?_indented, ofText?_compact, settled_of_canonical canonical]
    exact ⟨rfl, rfl⟩
  case parsed => exact fun source model => canonical_of_parse
  case read => exact fun value model => canonical_of_ofJson?
  case document =>
    intro source file start
    obtain ⟨kind, detected⟩ := exists_detect start
    have parsed : parse source = .ok (Model.ofSource kind source) := by
      rw [parse, detected]
      rfl
    have canonical := canonical_of_parse parsed
    refine ⟨(Model.ofSource kind source).toJson.indented ++ "\n", Model.ofSource kind source, ?_,
      ?_, ?_⟩
    · rw [Command.outcomeOn, parsed]
      exact modelOutcome_eq _
    · rw [ofText?_printed, settled_of_canonical canonical]
    · intro context base
      rw [convert_eq_map_parse, parsed]
      rfl
  case rewritten =>
    intro model
    exact ⟨⟨model.settled, ofText?_indented model, by rw [toJson_settled]⟩,
      model.settled, ofText?_compact model, by rw [toJson_settled]⟩

/-- An enumeration without literals, related with an unusual cardinality. -/
def colourModel : Model :=
  { kind := .classes
    elements := [{ type := "Enum", name := "Colour", values := some [] }]
    relationships :=
      [{ kind := .association
         source := "Colour"
         target := "B"
         sourceCardinality := some (.custom "2..5")
         targetCardinality := some .one }] }

/-- A source of `colourModel`. -/
def colourSource : String :=
  "@startclass\nenum Colour\nColour \"2..5\" -- \"1\" B"

/-- A record of `colourModel` with an unknown key, a null and missing lists. -/
def colourRecord : Value :=
  .object
    [ ("note", .null),
      ("diagramType", .string "Class"),
      ("elements",
        .array
          [.object
            [ ("type", .string "Enum"), ("name", .string "Colour"), ("alias", .null),
              ("values", .array [])]]),
      ("relationships",
        .array
          [.object
            [ ("type", .string "Association"), ("source", .string "Colour"),
              ("target", .string "B"), ("sourceCardinality", .string "2..5"),
              ("targetCardinality", .string "1")]]) ]

theorem colourModel_survives_json :
    parse colourSource = .ok colourModel ∧
      Model.ofJson? colourRecord = some colourModel ∧
      colourModel.Canonical ∧
      Model.ofText? Context.depthLimit colourModel.toJson.indented = some colourModel ∧
      ∃ text model,
        (Command.parse "-").outcomeOn colourSource = .success text ∧
          Model.ofText? Context.depthLimit text = some model ∧
          ∀ context base,
            convert colourSource context base = .ok (model.documentText context base) := by
  obtain ⟨unchanged, ofSource, ofRecord, document, -⟩ := Model.survives_json
  have parsed : parse colourSource = .ok colourModel := by rfl
  have record : Model.ofJson? colourRecord = some colourModel := by decide
  have canonical : colourModel.Canonical := ofSource colourSource colourModel parsed
  have sameCanonical : colourModel.Canonical := ofRecord colourRecord colourModel record
  exact ⟨parsed, record, sameCanonical, (unchanged colourModel canonical).1,
    document colourSource "-" (by decide)⟩

end DiagramGraph
