import DiagramGraph.Proofs.Text.Lines
import DiagramGraph.Proofs.Written.Piece
import DiagramGraph.Source

/-!
# Written sources

A source opens with a directive, and every text that it says something with
stands on a line of its own. Lines may be indented and may end in blanks, and
between them there may be empty lines, directives, remarks and braces. What the
source says does not depend on any of that.
-/

namespace DiagramGraph.Written

open DiagramGraph.Text

/-! ## Layout -/

/-- Blanks within one line. -/
structure IsIndent (blanks : List Char) : Prop where
  blank : ∀ char ∈ blanks, isBlank char = true
  single : '\n' ∉ blanks

/-- A line that says nothing: an empty one, a directive, a remark or a brace. -/
inductive IsIdle : List Char → Prop where
  | empty : IsIdle []
  | directive {rest : List Char} (tidy : Tidy ('@' :: rest)) : IsIdle ('@' :: rest)
  | remark {rest : List Char} (tidy : Tidy ('\'' :: rest)) : IsIdle ('\'' :: rest)
  | opening : IsIdle ['\x7b']
  | closing : IsIdle ['\x7d']

/-- The lines say the texts, in order: each text stands on a line of its own,
and all other lines are idle. -/
inductive Lays : List (List Char) → List (List Char) → Prop where
  | nil : Lays [] []
  | idle {before text after : List Char} {texts lines : List (List Char)} (idle : IsIdle text)
      (front : IsIndent before) (back : IsIndent after) (rest : Lays texts lines) :
      Lays texts ((before ++ (text ++ after)) :: lines)
  | content {before text after : List Char} {texts lines : List (List Char)}
      (front : IsIndent before) (back : IsIndent after) (rest : Lays texts lines) :
      Lays (text :: texts) ((before ++ (text ++ after)) :: lines)

/-- Texts that are written one per line, with nothing around them, are laid out. -/
theorem lays_self (texts : List (List Char)) : Lays texts texts := by
  have none : IsIndent [] := ⟨by simp, by simp⟩
  induction texts with
  | nil => exact .nil
  | cons text texts ih =>
      have line : Lays (text :: texts) (([] ++ (text ++ [])) :: texts) := .content none none ih
      rwa [List.nil_append, List.append_nil] at line

/-- A text that makes a line of content. -/
structure IsLine (text : List Char) : Prop where
  tidy : Tidy text
  content : isContent text = true

/-- Only the first character tells whether a line is content. -/
theorem isContent_append {front : List Char} (nonempty : front ≠ []) (rest : List Char) :
    isContent (front ++ rest) = isContent front := by
  obtain ⟨first, more, rfl⟩ := List.exists_cons_of_ne_nil nonempty
  rfl

theorem Word.isContent (word : Word) : isContent word.text = true := by
  obtain ⟨first, more, shape⟩ := List.exists_cons_of_ne_nil word.nonempty
  have directive : isWord '@' = false := by decide
  have remark : isWord '\'' = false := by decide
  have notDirective : first ≠ '@' := by
    rintro rfl
    exact word.notMem directive (by simp [shape])
  have notRemark : first ≠ '\'' := by
    rintro rfl
    exact word.notMem remark (by simp [shape])
  simp [shape, Text.isContent, notDirective, notRemark]

theorem Word.isLine_append (word : Word) {rest : List Char} (tidy : Tidy (word.text ++ rest)) :
    IsLine (word.text ++ rest) where
  tidy := tidy
  content := by rw [isContent_append word.nonempty, word.isContent]

/-- The source with a directive in front of its lines. -/
def source (directive : Word) (lines : List (List Char)) : String :=
  String.ofList (Detection.directiveMark ++ directive.text ++ lines.flatMap ('\n' :: ·))

/-! ## Lines of a source -/

theorem IsIdle.single {text : List Char} (idle : IsIdle text) : '\n' ∉ text := by
  cases idle with
  | empty => simp
  | directive tidy => exact tidy.single
  | remark tidy => exact tidy.single
  | opening => decide
  | closing => decide

theorem IsIndent.notMem_around {before text after : List Char} (front : IsIndent before)
    (back : IsIndent after) (single : '\n' ∉ text) : '\n' ∉ before ++ (text ++ after) := by
  simp [front.single, back.single, single]

/-- Every line of a layout is one line. -/
theorem Lays.single {texts lines : List (List Char)} (lays : Lays texts lines)
    (written : ∀ text ∈ texts, IsLine text) : ∀ line ∈ lines, '\n' ∉ line := by
  induction lays with
  | nil => simp
  | idle idle front back rest ih =>
      intro line member
      rcases List.mem_cons.1 member with rfl | member
      · exact front.notMem_around back idle.single
      · exact ih written line member
  | content front back rest ih =>
      intro line member
      rcases List.mem_cons.1 member with rfl | member
      · exact front.notMem_around back (written _ (by simp)).tidy.single
      · exact ih (fun text member => written text (by simp [member])) line member

theorem trim_idle {before text after : List Char} (idle : IsIdle text) (front : IsIndent before)
    (back : IsIndent after) : trim (before ++ (text ++ after)) = text := by
  cases idle with
  | empty =>
      apply trim_eq_nil
      intro char member
      rcases List.mem_append.1 member with member | member
      · exact front.blank char member
      · exact back.blank char member
  | directive tidy => exact trim_padded tidy front.blank back.blank
  | remark tidy => exact trim_padded tidy front.blank back.blank
  | opening =>
      have tidy : Tidy ['\x7b'] := tidy_iff.2 (by decide)
      exact trim_padded tidy front.blank back.blank
  | closing =>
      have tidy : Tidy ['\x7d'] := tidy_iff.2 (by decide)
      exact trim_padded tidy front.blank back.blank

/-- A kind of diagram that braces say nothing to. -/
def IgnoresBraces (kind : DiagramKind) : Prop :=
  kind.entryOf? ['\x7b'] = none ∧ kind.entryOf? ['\x7d'] = none

/-- An idle line makes no entry. -/
theorem entryOf?_idle {kind : DiagramKind} (ignores : IgnoresBraces kind) {text : List Char}
    (idle : IsIdle text) : isContent text = true → kind.entryOf? text = none := by
  intro content
  cases idle with
  | empty => contradiction
  | directive => simp [isContent] at content
  | remark => simp [isContent] at content
  | opening => exact ignores.1
  | closing => exact ignores.2

/-- The entries of laid out texts are those of the texts. -/
theorem Lays.filterMap_entryOf? {kind : DiagramKind} (ignores : IgnoresBraces kind)
    {texts lines : List (List Char)} (lays : Lays texts lines)
    (written : ∀ text ∈ texts, IsLine text) :
    ((lines.map trim).filter isContent).filterMap kind.entryOf? =
      texts.filterMap kind.entryOf? := by
  induction lays with
  | nil => rfl
  | idle idle front back rest ih =>
      rw [List.map_cons, trim_idle idle front back, ← ih written]
      cases content : isContent _ with
      | true =>
          rw [List.filter_cons_of_pos content, List.filterMap_cons_none]
          exact entryOf?_idle ignores idle content
      | false => rw [List.filter_cons_of_neg (by simp [content])]
  | content front back rest ih =>
      have line := written _ List.mem_cons_self
      have others := ih fun text member => written text (List.mem_cons_of_mem _ member)
      rw [List.map_cons, trim_padded line.tidy front.blank back.blank,
        List.filter_cons_of_pos line.content, List.filterMap_cons, List.filterMap_cons, others]

/-! ## The kind of a source -/

/-- The directive at the start of a source is the first one. -/
theorem directives_source (directive : Word) (lines : List (List Char)) :
    ∃ others, Detection.directives (source directive lines).toList = directive.text :: others := by
  have stop : ∀ char ∈ (lines.flatMap ('\n' :: ·)).head?, isWord char = false := by
    cases lines with
    | nil => simp
    | cons line lines =>
        rintro char ⟨⟩
        decide
  have opening :
      Detection.directiveAt?
          (Detection.directiveMark ++ (directive.text ++ lines.flatMap ('\n' :: ·))) =
        some directive.text := by
    simp [Detection.directiveAt?, after?_append, directive.word?_append stop]
  rw [source, String.toList_ofList, List.append_assoc]
  rw [Detection.directiveMark, List.cons_append] at opening ⊢
  exact ⟨_, by rw [Detection.directives, opening]; rfl⟩

/-- The first directive of a source decides its kind, unless it leaves it
open. -/
theorem detect_source {directive : Word} (lines : List (List Char))
    (telling : asciiLower directive.text ≠ Detection.bareWord) :
    detect (source directive lines) =
      .ok (DiagramKind.ofDirective (String.ofList (asciiLower directive.text))) := by
  obtain ⟨others, found⟩ := directives_source directive lines
  simp [detect, Detection.kind?, found, telling]

/-- What a source with certain texts is parsed as. -/
theorem parse_source {directive : Word} {kind : DiagramKind} {texts lines : List (List Char)}
    (detected : detect (source directive lines) = .ok kind) (ignores : IgnoresBraces kind)
    (lays : Lays texts lines) (written : ∀ text ∈ texts, IsLine text) :
    parse (source directive lines) =
      .ok (Model.ofEntries kind (texts.filterMap kind.entryOf?)) := by
  have plain : '\n' ∉ Detection.directiveMark ++ directive.text := by
    have outside : isWord '\n' = false := by decide
    simp [Detection.directiveMark, directive.notMem outside]
  have tidy : Tidy (Detection.directiveMark ++ directive.text) :=
    Tidy.append (tidy_iff.2 (by decide)) directive.tidy
  have lines_eq : Text.lines (source directive lines).toList =
      (Detection.directiveMark ++ directive.text) :: lines := by
    rw [source, String.toList_ofList]
    exact pieces_flatMap plain (lays.single written)
  have content : contentLines (source directive lines).toList =
      (lines.map trim).filter isContent := by
    rw [contentLines, lines_eq, List.map_cons, trim_eq_self tidy]
    rfl
  rw [parse, detected, Except.map, Model.ofSource, entries, content,
    lays.filterMap_entryOf? ignores written]

/-- Items that are written on lines of their own are read as the entries that their
lines make. -/
theorem parse_items {Item : Type} {directive : Word} {kind : DiagramKind}
    {texts : Item → List (List Char)} {entries : Item → List Entry} {items : List Item}
    {lines : List (List Char)} (detected : detect (source directive lines) = .ok kind)
    (ignores : IgnoresBraces kind) (written : ∀ item, ∀ text ∈ texts item, IsLine text)
    (read : ∀ item, (texts item).filterMap kind.entryOf? = entries item)
    (lays : Lays (items.flatMap texts) lines) :
    parse (source directive lines) = .ok (Model.ofEntries kind (items.flatMap entries)) := by
  have each : ∀ text ∈ items.flatMap texts, IsLine text := by
    intro text member
    obtain ⟨item, -, inside⟩ := List.mem_flatMap.1 member
    exact written item text inside
  have all : (items.flatMap texts).filterMap kind.entryOf? = items.flatMap entries := by
    rw [List.filterMap_flatMap]
    exact congrArg items.flatMap (funext read)
  rw [parse_source detected ignores lays each, all]

/-- Items with a line for each are read as an entry for each. -/
theorem parse_lineItems {Item : Type} {directive : Word} {kind : DiagramKind}
    {text : Item → List Char} {entry : Item → Entry} {items : List Item}
    {lines : List (List Char)} (detected : detect (source directive lines) = .ok kind)
    (ignores : IgnoresBraces kind) (written : ∀ item, IsLine (text item))
    (read : ∀ item, kind.entryOf? (text item) = some (entry item))
    (lays : Lays (items.map text) lines) :
    parse (source directive lines) = .ok (Model.ofEntries kind (items.map entry)) := by
  have each : ∀ line ∈ items.map text, IsLine line := by
    simp only [List.forall_mem_map]
    exact fun item _ => written item
  have all : (items.map text).filterMap kind.entryOf? = items.map entry := by
    have one : kind.entryOf? ∘ text = some ∘ entry := funext read
    rw [List.filterMap_map, one, List.filterMap_eq_map]
  rw [parse_source detected ignores lays each, all]

end DiagramGraph.Written
