import DiagramGraph.Proofs.Detection.Remark
import DiagramGraph.Proofs.Entry.Assembly
import DiagramGraph.Proofs.Written.ClassReading
import DiagramGraph.Proofs.Written.Source
import Mathlib.Data.List.Basic

/-!
# Connectors in diagrams without rules of their own

Diagrams of some kinds have elements only, each of which is a word and a name at
the start of a line. A connector between two words is not meant as a name, and
most connectors cannot be taken for one. Those that begin with a circle or a cross
can: both are drawn with letters, and the letters make an element.
-/

namespace DiagramGraph

open DiagramGraph.Text DiagramGraph.Written

/-- The kinds of diagrams without rules of their own. -/
def fallbackKinds : List DiagramKind :=
  [.object, .activity, .component, .state, .deployment, .generic]

/-! ## Their models -/

section Models

variable {kind : DiagramKind} (fallback : kind ∈ fallbackKinds)

include fallback

theorem entryOf?_of_fallback : kind.entryOf? = PairLine.entryOf? := by
  simp only [fallbackKinds, List.mem_cons, List.not_mem_nil, or_false] at fallback
  rcases fallback with rfl | rfl | rfl | rfl | rfl | rfl <;> rfl

/-- Each line makes at most one element, and nothing else. -/
theorem ofSource_of_fallback (source : String) :
    Model.ofSource kind source =
      { kind
        elements := (contentLines source.toList).filterMap PairLine.element?
        relationships := [] } := by
  have standalone : ∀ entry ∈ entries kind source.toList, entry.Standalone := by
    intro entry member
    rcases List.mem_filterMap.1 member with ⟨line, -, read⟩
    rw [entryOf?_of_fallback fallback] at read
    rcases Option.map_eq_some_iff.1 read with ⟨declared, -, rfl⟩
    trivial
  have elements : (entries kind source.toList).filterMap Entry.element? =
      (contentLines source.toList).filterMap PairLine.element? := by
    rw [entries, entryOf?_of_fallback fallback, List.filterMap_filterMap]
    apply List.filterMap_congr
    intro line _
    cases named : PairLine.element? line <;> simp [PairLine.entryOf?, named, Entry.element?]
  have relationships : (entries kind source.toList).filterMap Entry.relationship? = [] := by
    rw [List.filterMap_eq_nil_iff]
    intro entry member
    rcases List.mem_filterMap.1 member with ⟨line, -, read⟩
    rw [entryOf?_of_fallback fallback] at read
    rcases Option.map_eq_some_iff.1 read with ⟨declared, -, rfl⟩
    rfl
  rw [Model.ofSource, Model.ofEntries, Assembly.ofEntries_of_standalone standalone, elements,
    relationships]

end Models

/-- The content of joined lines is that of each of them. -/
theorem Text.contentLines_joined {parts : List (List Char)} (single : ∀ line ∈ parts, '\n' ∉ line) :
    contentLines (joined parts) = (parts.map trim).filter isContent := by
  by_cases nothing : parts = []
  · rw [nothing]
    rfl
  · rw [contentLines, lines_joined nothing single]

/-! ## Lines with a connector -/

/-- A line on which a connector joins two words. Behind the second one anything may
follow, such as a label. -/
structure ConnectorLine where
  indent : List Char
  source : Word
  before : List Char
  glyph : Glyph
  behind : List Char
  target : Word
  further : List Char
  indentBlank : IsIndent indent
  beforeBlank : IsIndent before
  beforeApart : before ≠ []
  behindBlank : IsIndent behind
  behindApart : behind ≠ []
  single : '\n' ∉ further

namespace ConnectorLine

/-- The line as it is written. -/
def text (line : ConnectorLine) : List Char :=
  line.indent ++
    (line.source.text ++
      (line.before ++
        (line.glyph.connector.text ++ (line.behind ++ (line.target.text ++ line.further)))))

/-- The word characters with which the connector begins. -/
def opening (line : ConnectorLine) : List Char :=
  line.glyph.left.takeWhile isWord

/-- The element that the connector is mistaken for, if it begins like a name. -/
def mistaken? (line : ConnectorLine) : Option Element :=
  if line.opening = [] then none
  else
    some
      { type := String.ofList (capitalize line.source.text)
        name := String.ofList line.opening }

theorem single_text (line : ConnectorLine) : '\n' ∉ line.text := by
  simp [text, line.indentBlank.single, line.source.tidy.single, line.beforeBlank.single,
    line.glyph.tidy.single, line.behindBlank.single, line.target.tidy.single, line.single]

/-- The two ends of the line are trimmed without a change in between. -/
theorem trim_text (line : ConnectorLine) :
    ∃ rest, trim line.text = line.source.text ++
      (line.before ++ (line.glyph.connector.text ++ (line.behind ++ rest))) := by
  let middle := line.source.text ++
    (line.before ++ (line.glyph.connector.text ++ (line.behind ++ line.target.text)))
  have glyphTidy : Tidy (line.glyph.connector.text ++ (line.behind ++ line.target.text)) :=
    line.glyph.tidy.join line.target.tidy line.behindBlank.single
  have tidy : Tidy middle := line.source.tidy.join glyphTidy line.beforeBlank.single
  have split : line.text = line.indent ++ (middle ++ line.further) := by
    simp only [text, middle, List.append_assoc]
  refine ⟨line.target.text ++ trimEnd line.further, ?_⟩
  rw [split, trim_blanks_append line.indentBlank.blank, trim,
    trimStart_eq_self (tidy.head_append line.further), trimEnd_append tidy.finish]
  simp only [middle, List.append_assoc]

/-- The shaft ends the word characters of a connector. -/
theorem takeWhile_isWord_append (line : ConnectorLine) (rest : List Char) :
    (line.glyph.connector.text ++ rest).takeWhile isWord = line.opening := by
  have stop : ∃ first more, line.glyph.shaft.text = first :: more ∧ isWord first = false := by
    cases line.glyph.shaft with
    | dashes more => exact ⟨'-', _, rfl, by decide⟩
    | dots more => exact ⟨'.', _, rfl, by decide⟩
  rcases stop with ⟨first, more, shape, outside⟩
  -- What adorns the right end is never reached: the shaft stands in front of it.
  have split : line.glyph.connector.text ++ rest =
      line.glyph.left ++ first :: (more ++ (line.glyph.right ++ rest)) := by
    simp [Glyph.connector, AdornedConnector.text, shape]
  rw [split, takeWhile_append_stop outside, opening]

/-- Of all that connectors are drawn with, the circle and the cross are word
characters. -/
theorem opening_eq_nil_iff (line : ConnectorLine) :
    line.opening = [] ↔ ∀ first ∈ line.glyph.connector.text.head?, first ≠ 'o' ∧ first ≠ 'x' := by
  have letters :
      ∀ char ∈ AdornedConnector.leftAdornments ++ AdornedConnector.rightAdornments ++ ['-', '.'],
        isWord char = false ↔ char ≠ 'o' ∧ char ≠ 'x' :=
    List.all_iff_forall_prop.1 (by decide)
  have whole := line.takeWhile_isWord_append []
  rw [List.append_nil] at whole
  rw [← whole, ← not_not (a := _ = []), ← Ne, takeWhile_ne_nil_iff]
  simp only [not_exists, not_and, Bool.not_eq_true]
  apply forall₂_congr
  intro first starts
  exact letters first (line.glyph.mem_drawn first (List.mem_of_mem_head? starts))

/-- No connector begins with a quote. -/
theorem quoted?_connector (line : ConnectorLine) (rest : List Char) :
    quoted? (line.glyph.connector.text ++ rest) = none := by
  rcases List.exists_cons_of_ne_nil line.glyph.ne_nil with ⟨first, more, shape⟩
  apply quoted?_eq_none
  rw [shape]
  rintro char ⟨⟩
  exact (line.glyph.visible first (by simp [shape])).2.1

/-- A connector is read as a name if it begins like one. -/
theorem element?_text (line : ConnectorLine) :
    PairLine.element? (trim line.text) = line.mistaken? := by
  rcases line.trim_text with ⟨rest, trimmed⟩
  have leading : leadingWord? (trim line.text) =
      some (line.source.text, line.glyph.connector.text ++ (line.behind ++ rest)) := by
    rw [trimmed]
    exact line.source.leadingWord?_gap line.beforeApart line.beforeBlank.blank
      (line.glyph.tidy.head_append _)
  have named : name? (line.glyph.connector.text ++ (line.behind ++ rest)) =
      run? isWord (line.glyph.connector.text ++ (line.behind ++ rest)) := by
    rw [name?, line.quoted?_connector]
    rfl
  have taken := line.takeWhile_isWord_append (line.behind ++ rest)
  simp only [PairLine.element?, leading, Option.bind_eq_bind, Option.bind_some, named, run?, taken,
    mistaken?]
  by_cases empty : line.opening = []
  · rw [empty]
    rfl
  · rcases List.exists_cons_of_ne_nil empty with ⟨first, more, shape⟩
    rw [shape]
    rfl

/-- A line with a connector is content. -/
theorem isContent_trim_text (line : ConnectorLine) : isContent (trim line.text) = true := by
  rcases line.trim_text with ⟨rest, trimmed⟩
  rw [trimmed, isContent_append line.source.nonempty, line.source.isContent]

end ConnectorLine

/-! ## The main statement -/

/-- In a diagram without rules of its own, a line with a connector states no
relationship. It makes no element either, unless the connector begins with a circle
or a cross; then it makes one that is named after these. All other elements are those
of the lines in front and behind. -/
theorem ofSource_withConnectorLine {kind : DiagramKind} (fallback : kind ∈ fallbackKinds)
    {before after : List (List Char)} (single : ∀ part ∈ before ++ after, '\n' ∉ part)
    (line : ConnectorLine) :
    (Model.ofSource kind (withLine before line.text after)).relationships = [] ∧
      (Model.ofSource kind (withLine before line.text after)).elements =
        (Model.ofSource kind (String.ofList (joined before))).elements ++
          (line.mistaken?.toList ++
            (Model.ofSource kind (String.ofList (joined after))).elements) ∧
      (line.mistaken? = none ↔
        ∀ first ∈ line.glyph.connector.text.head?, first ≠ 'o' ∧ first ≠ 'x') := by
  rw [List.forall_mem_append] at single
  have whole : ∀ part ∈ before ++ line.text :: after, '\n' ∉ part := by
    rw [List.forall_mem_append, List.forall_mem_cons]
    exact ⟨single.1, line.single_text, single.2⟩
  refine ⟨?_, ?_, ?_⟩
  · rw [ofSource_of_fallback fallback]
  · simp only [ofSource_of_fallback fallback, withLine, String.toList_ofList]
    rw [contentLines_joined whole, contentLines_joined single.1, contentLines_joined single.2,
      List.map_append, List.map_cons, List.filter_append,
      List.filter_cons_of_pos line.isContent_trim_text, List.filterMap_append,
      List.filterMap_cons, line.element?_text]
    cases line.mistaken? with
    | none => rfl
    | some element => rfl
  · rw [← line.opening_eq_nil_iff, ConnectorLine.mistaken?]
    by_cases empty : line.opening = []
    · simp [empty]
    · simp [empty]

/-- An aggregation with its circle on the left. -/
def circledLine : ConnectorLine where
  indent := []
  source := ⟨"Shelf".toList, by decide, List.all_eq_true.1 (by decide)⟩
  before := [' ']
  glyph := ⟨['o'], .dashes 1, [], List.all_iff_forall_prop.1 (by decide), List.forall_mem_nil _⟩
  behind := [' ']
  target := ⟨"Volume".toList, by decide, List.all_eq_true.1 (by decide)⟩
  further := " : holds".toList
  indentBlank := ⟨List.forall_mem_nil _, List.not_mem_nil⟩
  beforeBlank := ⟨List.all_eq_true.1 (by decide), by decide⟩
  beforeApart := by decide
  behindBlank := ⟨List.all_eq_true.1 (by decide), by decide⟩
  behindApart := by decide
  single := by decide +kernel

theorem ofSource_withCircledLine :
    let before := ["@startstate".toList, "state Idle".toList]
    let after := ["Idle --> Busy".toList]
    .state ∈ fallbackKinds ∧ (∀ part ∈ before ++ after, '\n' ∉ part) ∧
      (Model.ofSource .state (withLine before circledLine.text after)).relationships = [] ∧
      (Model.ofSource .state (withLine before circledLine.text after)).elements =
        [{ type := "State", name := "Idle" }, { type := "Shelf", name := "o" }] := by
  intro before after
  have fallback : .state ∈ fallbackKinds := by decide
  have single : ∀ part ∈ before ++ after, '\n' ∉ part := by decide +kernel
  rcases ofSource_withConnectorLine fallback single circledLine with ⟨unrelated, elements, -⟩
  refine ⟨fallback, single, unrelated, elements.trans ?_⟩
  decide +kernel

/-- So not every line with a connector is passed over. -/
theorem exists_element_of_connectorLine :
    ¬ ∀ kind ∈ fallbackKinds, ∀ line : ConnectorLine,
      (Model.ofSource kind (String.ofList line.text)).elements = [] := by
  intro passedOver
  have written : String.ofList circledLine.text = "Shelf o-- Volume : holds" := by decide +kernel
  have empty := passedOver .generic (by decide) circledLine
  have named : (Model.ofSource .generic "Shelf o-- Volume : holds").elements =
      [{ type := "Shelf", name := "o" }] := by decide +kernel
  rw [written, named] at empty
  cases empty

end DiagramGraph
