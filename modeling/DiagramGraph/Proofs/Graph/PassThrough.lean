import DiagramGraph.Proofs.Detection.Rules
import DiagramGraph.Proofs.Entry.Blocks
import DiagramGraph.Proofs.Graph.Conversion
import DiagramGraph.Proofs.Graph.Emission
import DiagramGraph.Proofs.Json.Rendering

/-!
# Contexts are passed through

A context is given as the address of a remote context or as any rendering of a
JSON value, with any blanks around it. It stands in the document as it was
given: the document is an object whose first key holds the context, and nothing
else in it depends on the context.
-/

namespace DiagramGraph

open DiagramGraph.Detection DiagramGraph.Json DiagramGraph.Text

/-! ## Contexts as texts -/

/-- How a context may be given as a text. An inline context has to leave one
level of nesting to the document. -/
inductive Context.Denoted (text : String) : Context → Prop where
  | inline {value : Value} {before rendering after : List Char}
      (wellFormed : value.WellFormed Number.Exact) (shallow : value.depth ≤ 126)
      (renders : value.Renders rendering) (blankBefore : ∀ char ∈ before, isBlank char = true)
      (blankAfter : ∀ char ∈ after, isBlank char = true)
      (split : text.toList = before ++ (rendering ++ after)) : Denoted text (.inline value)
  | iri (address : "http://".toList <+: trim text.toList ∨ "https://".toList <+: trim text.toList) :
      Denoted text (.iri (String.ofList (trim text.toList)))

namespace Context

variable {text : String} {context : Context}

/-- What begins with a different character begins with no scheme. -/
theorem schemes_eq_false {trimmed : List Char} (other : ∀ char ∈ trimmed.head?, char ≠ 'h') :
    (schemes.any fun scheme => scheme.isPrefixOf trimmed) = false := by
  cases trimmed with
  | nil => decide
  | cons char rest =>
      have different : ('h' == char) = false := by
        simpa using Ne.symm (other char rfl)
      simp [schemes, List.isPrefixOf, different]

/-- A context is read as it was given. -/
theorem Denoted.ofText?_eq (denoted : Denoted text context) : ofText? text = some context := by
  cases denoted with
  | @inline value before rendering after wellFormed shallow renders blankBefore blankAfter split =>
      have trimmed : trim text.toList = trim rendering := by
        rw [split, trim_blanks_append blankBefore, trim_append_blanks blankAfter]
      have spells := Spells.trim renders
      have read : read? depthLimit (trim rendering) = some value :=
        read?_of_renders wellFormed (shallow.trans (by decide)) spells
      rw [ofText?, trimmed, schemes_eq_false spells.head_ne, read]
      rfl
  | iri address =>
      have found : (schemes.any fun scheme => scheme.isPrefixOf (trim text.toList)) = true := by
        simpa [schemes] using address
      rw [ofText?, if_pos found]

/-- A context that was given as a text can be nested one level deeper. -/
theorem Denoted.fits (denoted : Denoted text context) : context.toJson.Fits Number.Exact 126 := by
  cases denoted with
  | inline wellFormed shallow => exact ⟨wellFormed, shallow⟩
  | iri address => exact Value.fits_string _

end Context

/-! ## Documents -/

/-- A source whose characters can be counted by a word makes a model that can be
counted. -/
theorem Model.countable_ofSource (kind : DiagramKind) {source : String}
    (short : source.length < 2 ^ 64) : (Model.ofSource kind source).Countable := by
  have lines := length_contentLines_le source.toList
  rw [String.length_toList] at lines
  have elements : (Model.ofSource kind source).elements.length ≤
      (contentLines source.toList).length := by
    rw [elements_eq_blocks, List.length_map, ← List.length_map (f := Prod.fst),
      LineRules.map_fst_blocks]
    exact List.length_filterMap_le _ _
  have relationships : (Model.ofSource kind source).relationships.length ≤
      (contentLines source.toList).length := by
    rw [relationships_eq_undeclared]
    exact (List.length_filterMap_le _ _).trans (List.length_filter_le _ _)
  exact ⟨by omega, by omega⟩

theorem Model.counted_isInteger (model : Model) : model.Counted Number.IsInteger :=
  ⟨.integer _, .integer _⟩

/-- The text of a document is a rendering of it. -/
theorem Model.renders_documentText (model : Model) {context : Context}
    (fits : context.toJson.Fits Number.Exact 126) (base : String) :
    ((Graph.ofModel base model).document context).Renders
      (model.documentText context base).toList := by
  have integers : context.toJson.Fits Number.IsInteger 126 :=
    ⟨fits.1.mono fun _ exact => exact.isInteger, fits.2⟩
  have document := Graph.fits_document_of_counted model.counted_isInteger integers base
  rw [Model.documentText, Value.indented, String.toList_ofList]
  exact renders_write Layout.separating_indented document.1 0

/-- A context is passed through. What was given as a text is read as that context;
and every source with a directive has a graph that does not depend on the
context, such that the document for any context is the object of that context and
that graph. This is the value that a reader makes of the document, as long as the
numbers of elements and relationships in it cannot exceed a word. -/
theorem context_passes_through :
    (∀ text context, Context.Denoted text context → Context.ofText? text = some context) ∧
      ∀ source base before behind, DirectiveAt source.toList before behind →
        ∃ graph : Value, ∀ text context, Context.Denoted text context →
          ∃ document, convert source context base = .ok document ∧
            (Value.object [("@context", context.toJson), ("@graph", graph)]).Renders
              document.toList ∧
            (source.length < 2 ^ 64 →
              read? Context.depthLimit document.toList =
                some (.object [("@context", context.toJson), ("@graph", graph)])) := by
  refine ⟨fun text context denoted => denoted.ofText?_eq, ?_⟩
  intro source base before behind directive
  obtain ⟨kind, converted⟩ := exists_documentText directive
  refine ⟨(Graph.ofModel base (Model.ofSource kind source)).toJson, ?_⟩
  intro text context denoted
  have renders := (Model.ofSource kind source).renders_documentText denoted.fits base
  refine ⟨_, converted context base, renders, fun short => ?_⟩
  have counted := (Model.countable_ofSource kind short).counted
  have fits := Graph.fits_document_of_counted counted denoted.fits base
  exact read?_of_renders fits.1 fits.2 renders

/-- A list with a string and a number. -/
def tagsValue : Value :=
  .array [.string "A/", .number (.integer (-7))]

/-- The list with blanks and escapes that the writer would not use. -/
def tagsText : String :=
  "\u3000[ \"\\u0041\\/\" ,\t-7]\u0085"

theorem tagsValue_renders : tagsValue.Renders "[ \"\\u0041\\/\" ,\t-7]".toList := by
  have letter : CharSpelled 'A' "\\u0041".toList :=
    .unit (.digits (by decide) (.inl rfl) (.inl rfl) (.inl rfl) (.inl rfl))
  have slash : CharSpelled '/' "\\/".toList := .short (by decide)
  have inner : StringSpelled "A/".toList "\\u0041\\/".toList := .cons letter (.cons slash .nil)
  have space : ∀ char ∈ [' '], isSeparator char = true := List.forall_mem_singleton.2 rfl
  have tab : ∀ char ∈ ['\t'], isSeparator char = true := List.forall_mem_singleton.2 rfl
  have number : Spells [.comma, .number (.integer (-7)), .closeArray] " ,\t-7]".toList :=
    .cons space .comma (.cons tab (.integer (-7)) (.front .closeArray .empty))
  exact .front .openArray (.cons space (.string inner) number)

theorem tags_pass_through :
    Context.Denoted tagsText (.inline tagsValue) ∧
      DirectiveAt "@startuml\nclass A".toList [] "uml\nclass A".toList ∧
      Context.ofText? tagsText = some (.inline tagsValue) ∧
      ∃ graph document, convert "@startuml\nclass A" (.inline tagsValue) "urn:a" = .ok document ∧
        read? Context.depthLimit document.toList =
          some (.object [("@context", tagsValue), ("@graph", graph)]) := by
  have wellFormed : tagsValue.WellFormed Number.Exact := by
    refine .array fun item member => ?_
    rcases List.mem_pair.1 member with rfl | rfl
    · exact .string "A/"
    · exact .number (.integer ⟨by decide, by decide⟩)
  have blankBefore : ∀ char ∈ ['\u3000'], isBlank char = true := List.forall_mem_singleton.2 rfl
  have blankAfter : ∀ char ∈ ['\u0085'], isBlank char = true := List.forall_mem_singleton.2 rfl
  have denoted : Context.Denoted tagsText (.inline tagsValue) :=
    .inline wellFormed (by decide) tagsValue_renders blankBefore blankAfter rfl
  have directive : DirectiveAt "@startuml\nclass A".toList [] "uml\nclass A".toList :=
    ⟨rfl, 'u', rfl, by decide⟩
  obtain ⟨read, passed⟩ := context_passes_through
  obtain ⟨graph, each⟩ := passed "@startuml\nclass A" "urn:a" _ _ directive
  obtain ⟨document, converted, -, back⟩ := each tagsText _ denoted
  exact ⟨denoted, directive, read _ _ denoted, graph, document, converted, back (by decide)⟩

end DiagramGraph
