import DiagramGraph.Graph.Document
import DiagramGraph.Proofs.Detection.Rules
import DiagramGraph.Proofs.Json.Datum

/-!
# Where a conversion can fail

A conversion has two steps that have errors of their own: the source is read, and the
document of its model is written. The second step never fails, since a document is a
JSON value. So a conversion succeeds if and only if the source has a model, and its
only error is that no directive opens a diagram.
-/

namespace DiagramGraph

open DiagramGraph.Detection

/-- The document of a model can always be written. -/
theorem Model.writtenDocument_eq (model : Model) (context : Context) (base : String) :
    model.writtenDocument context base = .ok (model.documentText context base) := by
  rw [writtenDocument, Json.Datum.indented_toDatum]
  rfl

/-- Nothing but the model decides what becomes of a source. -/
theorem convert_eq_map_parse (source : String) (context : Context) (base : String) :
    convert source context base =
      (parse source).map fun model => model.documentText context base := by
  rw [convert]
  cases parse source with
  | error error => rfl
  | ok model => exact model.writtenDocument_eq context base

/-- The document of a source with a directive is made from a model of some kind. -/
theorem exists_documentText {source : String} {before behind : List Char}
    (directive : DirectiveAt source.toList before behind) :
    ∃ kind, ∀ context base, convert source context base =
      .ok ((Model.ofSource kind source).documentText context base) := by
  obtain ⟨kind, detected⟩ := detect_of_directiveAt directive
  refine ⟨kind, fun context base => ?_⟩
  rw [convert_eq_map_parse, parse, detected]
  rfl

theorem convert_of_undirected {source : String} {context : Context} {base : String}
    (none : ∀ before behind, ¬ DirectiveAt source.toList before behind) :
    convert source context base = .error .missingDirective := by
  rw [convert_eq_map_parse, parse, detect_eq_error none]
  rfl

/-- A conversion never fails at the document. -/
theorem eq_missingDirective_of_convert {source : String} {context : Context} {base : String}
    {error : SourceError} (failed : convert source context base = .error error) :
    error = .missingDirective := by
  rw [convert_eq_map_parse] at failed
  exact eq_missingDirective_of_parse (eq_error_of_map_eq_error failed)

end DiagramGraph
