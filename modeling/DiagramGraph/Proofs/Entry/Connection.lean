import DiagramGraph.Proofs.Entry.Blocks
import DiagramGraph.Proofs.Written.Connector

/-!
# Where relationships stand in their lines

A relationship is written as a connection: two words with a connector between them,
and possibly a text behind a colon. In a class diagram a connection is read at the
start of a line only. In the other kinds of diagrams it is found at any word of a
line, the first one from which it can be read, so that a line which is meant for
something else may state a relationship behind that.
-/

namespace DiagramGraph

open DiagramGraph.Text DiagramGraph.Written

/-! ## Connections -/

/-- The text is made of blanks, and it is not empty. -/
structure IsGap (text : List Char) : Prop where
  nonempty : text ≠ []
  blank : ∀ char ∈ text, isBlank char = true

/-- What may stand on either side of a connector: a gap, in a sequence diagram also
nothing, and in a class diagram also a quoted cardinality in its gaps. -/
inductive IsMargin : DiagramKind → List Char → Prop where
  | gap {kind : DiagramKind} {text : List Char} (isGap : IsGap text) : IsMargin kind text
  | nothing : IsMargin .sequence []
  | quoted {front inner back : List Char} (before : IsGap front) (plain : '"' ∉ inner)
      (after : IsGap back) : IsMargin .classes (front ++ '"' :: (inner ++ '"' :: back))

/-- The connectors of each kind of diagram. -/
inductive IsConnector : DiagramKind → List Char → Prop where
  | adorned (glyph : Glyph) : IsConnector .classes glyph.connector.text
  | arrow (arrow : ArrowGlyph) : IsConnector .sequence arrow.text
  | link (link : LinkGlyph) : IsConnector .useCase link.text
  | foot {left right : List Char} (dotted : Bool) (leftEnd : CrowsFoot.isLeftEnd left = true)
      (rightEnd : CrowsFoot.isRightEnd right = true) :
      IsConnector .entityRelationship (left ++ (Foot.shaftText dotted ++ right))

/-- Two words with a connector between them, and what stands behind them. -/
structure Connection (kind : DiagramKind) where
  source : Word
  before : List Char
  connector : List Char
  behind : List Char
  target : Word
  rest : List Char
  isMarginBefore : IsMargin kind before
  isConnector : IsConnector kind connector
  isMarginBehind : IsMargin kind behind
  ended : ∀ char ∈ rest.head?, isWord char = false

namespace Connection

variable {kind : DiagramKind}

/-- The connection as it is written. -/
def text (connection : Connection kind) : List Char :=
  connection.source.text ++
    (connection.before ++
      (connection.connector ++
        (connection.behind ++ (connection.target.text ++ connection.rest))))

/-- The relationship has the words of the connection for its ends, and the text
behind the colon for its label, or for its message in a sequence diagram. -/
structure States (connection : Connection kind) (stated : Relationship) : Prop where
  source : stated.source = String.ofList connection.source.text
  target : stated.target = String.ofList connection.target.text
  caption : (if kind = .sequence then stated.message else stated.label) =
    (label? connection.rest).map String.ofList

theorem text_ne_nil (connection : Connection kind) : connection.text ≠ [] :=
  List.append_ne_nil_of_left_ne_nil connection.source.nonempty _

/-- The connection stands in a line, behind some text that does not end in a word. -/
structure StandsIn (connection : Connection kind) (front line : List Char) : Prop where
  split : line = front ++ connection.text
  outside : ∀ last ∈ front.getLast?, isWord last = false

end Connection

/-! ## Margins and connectors -/

theorem IsGap.gap?_append {gap rest : List Char} (isGap : IsGap gap)
    (visible : ∀ char ∈ rest.head?, isBlank char = false) : gap? (gap ++ rest) = some rest :=
  gap?_eq_some_iff.2 ⟨gap, isGap.nonempty, isGap.blank, visible, rfl⟩

theorem IsGap.head_append {gap : List Char} (isGap : IsGap gap) (rest : List Char) :
    ∀ char ∈ (gap ++ rest).head?, isBlank char = true := by
  rcases List.exists_cons_of_ne_nil isGap.nonempty with ⟨first, more, rfl⟩
  rintro char ⟨⟩
  exact isGap.blank first List.mem_cons_self

/-- A margin begins with a blank, unless it is empty. -/
theorem IsMargin.blank_or_nothing {kind : DiagramKind} {margin : List Char}
    (isMargin : IsMargin kind margin) :
    (∀ rest, ∀ char ∈ (margin ++ rest).head?, isBlank char = true) ∨
      kind = .sequence ∧ margin = [] := by
  cases isMargin with
  | gap isGap => exact .inl isGap.head_append
  | nothing => exact .inr ⟨rfl, rfl⟩
  | quoted before plain after =>
      left
      intro rest
      rw [List.append_assoc]
      exact before.head_append _

/-- Only class diagrams and sequence diagrams have margins other than gaps. -/
theorem IsMargin.isGap {kind : DiagramKind} {margin : List Char} (isMargin : IsMargin kind margin)
    (notClasses : kind ≠ .classes) (notSequence : kind ≠ .sequence) : IsGap margin := by
  cases isMargin with
  | gap isGap => exact isGap
  | nothing => contradiction
  | quoted before plain after => contradiction

theorem exists_gap_of_gap? {text rest : List Char} (skipped : gap? text = some rest) :
    ∃ gap, IsGap gap ∧ text = gap ++ rest := by
  rcases gap?_eq_some_iff.1 skipped with ⟨gap, nonempty, blank, -, split⟩
  exact ⟨gap, ⟨nonempty, blank⟩, split⟩

namespace ClassLine

/-- A margin is skipped in two steps: the gap, and the cardinality if there is one. -/
theorem skipQuoted?_margin {margin rest : List Char} (isMargin : IsMargin .classes margin)
    (visible : ∀ char ∈ rest.head?, isBlank char = false ∧ char ≠ '"') :
    ∃ behind, gap? (margin ++ rest) = some behind ∧ skipQuoted? behind = some rest := by
  have seen : ∀ char ∈ rest.head?, isBlank char = false := fun char starts =>
    (visible char starts).1
  cases isMargin with
  | gap isGap =>
      refine ⟨rest, isGap.gap?_append seen, Link.skipQuoted?_eq_self ?_⟩
      exact fun char starts => (visible char starts).2
  | @quoted front inner back before plain after =>
      refine ⟨'"' :: (inner ++ '"' :: (back ++ rest)), ?_, ?_⟩
      · rw [List.append_assoc, List.cons_append, List.append_assoc, List.cons_append]
        apply before.gap?_append
        rintro char ⟨⟩
        decide
      · rw [skipQuoted?, upTo?_append plain]
        exact after.gap?_append seen

theorem isMargin_of_skipQuoted? {text behind rest : List Char} (gap : gap? text = some behind)
    (skipped : skipQuoted? behind = some rest) :
    ∃ margin, IsMargin .classes margin ∧ text = margin ++ rest := by
  rcases exists_gap_of_gap? gap with ⟨front, before, rfl⟩
  unfold skipQuoted? at skipped
  split at skipped
  · next quoted =>
      rcases Option.bind_eq_some_iff.1 skipped with ⟨⟨inner, further⟩, closed, apart⟩
      rcases upTo?_eq closed with ⟨plain, rfl⟩
      rcases exists_gap_of_gap? apart with ⟨back, after, rfl⟩
      exact ⟨_, .quoted before plain after, by simp⟩
  · cases skipped
    exact ⟨front, .gap before, rfl⟩

end ClassLine

/-- Connectors begin with what is not blank. -/
theorem IsConnector.head_append {kind : DiagramKind} {connector : List Char}
    (isConnector : IsConnector kind connector) (rest : List Char) :
    ∀ char ∈ (connector ++ rest).head?, isBlank char = false := by
  cases isConnector with
  | adorned glyph => exact glyph.tidy.head_append rest
  | arrow arrow => exact arrow.tidy.head_append rest
  | link link => exact link.tidy.head_append rest
  | foot dotted leftEnd rightEnd =>
      exact (Foot.tidy_of_ends dotted leftEnd rightEnd).head_append rest

/-- No word character begins an arrow. -/
theorem IsConnector.arrow_head_append {connector : List Char}
    (isConnector : IsConnector .sequence connector) (rest : List Char) :
    ∀ char ∈ (connector ++ rest).head?, isWord char = false := by
  cases isConnector with
  | arrow arrow => exact fun char starts => (arrow.beginsConnector rest char starts).2.2

/-! ## What is read at a connection -/

namespace Connection

variable {kind : DiagramKind}

/-- What stands behind the connector. -/
def behindConnector (connection : Connection kind) : List Char :=
  connection.behind ++ (connection.target.text ++ connection.rest)

/-- What stands behind the source. -/
def behindSource (connection : Connection kind) : List Char :=
  connection.before ++ (connection.connector ++ connection.behindConnector)

/-- The source ends where the margin begins, or else the connector. -/
theorem word?_text (connection : Connection kind) :
    word? connection.text = some (connection.source.text, connection.behindSource) := by
  apply connection.source.word?_append
  rcases connection.isMarginBefore.blank_or_nothing with blank | ⟨rfl, empty⟩
  · exact fun char starts => isWord_eq_false_of_isBlank (blank _ char starts)
  · rw [empty, List.nil_append]
    exact connection.isConnector.arrow_head_append _

theorem word?_target (connection : Connection kind) :
    word? (connection.target.text ++ connection.rest) =
      some (connection.target.text, connection.rest) :=
  connection.target.word?_append connection.ended

/-- The parts of a text that is read as a connection. -/
theorem exists_of_parts {text source before connector behind behindSource behindConnector
    behindMargin target rest : List Char} (read : word? text = some (source, behindSource))
    (splitSource : behindSource = before ++ (connector ++ behindConnector))
    (isMarginBefore : IsMargin kind before) (isConnector : IsConnector kind connector)
    (splitConnector : behindConnector = behind ++ behindMargin)
    (isMarginBehind : IsMargin kind behind)
    (readTarget : word? behindMargin = some (target, rest)) :
    ∃ connection : Connection kind, text = connection.text ∧ connection.source.text = source ∧
      connection.target.text = target ∧ connection.rest = rest := by
  have sourceRun := isWordRun_of_word? read
  have targetRun := isWordRun_of_word? readTarget
  refine ⟨⟨⟨source, sourceRun.nonempty, sourceRun.word⟩, before, connector, behind,
    ⟨target, targetRun.nonempty, targetRun.word⟩, rest, isMarginBefore, isConnector,
    isMarginBehind, head_behind_run? readTarget⟩, ?_, rfl, rfl, rfl⟩
  rw [Connection.text, append_of_run? readTarget, ← splitConnector, ← splitSource,
    append_of_run? read]

end Connection

/-! ### Sequence diagrams -/

namespace SequenceLine

theorem trimStart_margin {margin rest : List Char} (isMargin : IsMargin .sequence margin)
    (visible : ∀ char ∈ rest.head?, isBlank char = false) : trimStart (margin ++ rest) = rest := by
  cases isMargin with
  | gap isGap => exact trimStart_append isGap.blank visible
  | nothing => exact trimStart_eq_self visible

theorem exists_margin (text : List Char) :
    ∃ margin, IsMargin .sequence margin ∧ text = margin ++ trimStart text := by
  refine ⟨text.takeWhile isBlank, ?_, List.takeWhile_append_dropWhile.symm⟩
  by_cases empty : text.takeWhile isBlank = []
  · rw [empty]
    exact .nothing
  · exact .gap ⟨empty, fun char member => List.all_eq_true.1 List.all_takeWhile char member⟩

theorem exists_connection_of_messageAt? {text : List Char} {stated : Relationship}
    (read : messageAt? text = some stated) :
    ∃ connection : Connection .sequence, text = connection.text ∧ connection.States stated := by
  rcases Option.bind_eq_some_iff.1 read with ⟨⟨source, behindSource⟩, word, read⟩
  rcases Option.bind_eq_some_iff.1 read with ⟨⟨written, behindArrow⟩, drawn, read⟩
  rcases Option.bind_eq_some_iff.1 read with ⟨⟨target, rest⟩, targetWord, same⟩
  cases same
  rcases ArrowGlyph.exists_of_read? drawn with ⟨arrow, split⟩
  rcases exists_margin behindSource with ⟨before, marginBefore, splitSource⟩
  rcases exists_margin behindArrow with ⟨behind, marginBehind, splitArrow⟩
  rw [split] at splitSource
  rcases Connection.exists_of_parts word splitSource marginBefore (.arrow arrow) splitArrow
    marginBehind targetWord with ⟨connection, shape, rfl, rfl, rfl⟩
  exact ⟨connection, shape, rfl, rfl, rfl⟩

theorem read?_arrow {connector rest : List Char} (isConnector : IsConnector .sequence connector)
    (stop : ∀ char ∈ rest.head?, Arrow.isPart char = false) :
    Arrow.read? (connector ++ rest) = some (connector, rest) := by
  cases isConnector with
  | arrow arrow => exact arrow.read?_append stop

/-- Neither a blank nor a word character continues an arrow. -/
theorem isPart_behindConnector (connection : Connection .sequence) :
    ∀ char ∈ connection.behindConnector.head?, Arrow.isPart char = false := by
  have other {char : Char} (outside : isBlank char = true ∨ isWord char = true) :
      Arrow.isPart char = false := by
    have marks : ∀ mark ∈ ['-', '>'], isBlank mark = false ∧ isWord mark = false :=
      List.all_iff_forall_prop.1 (by decide)
    cases part : Arrow.isPart char with
    | false => rfl
    | true =>
        have mark := marks char (by simpa [Arrow.isPart] using part)
        simp [mark] at outside
  rcases connection.isMarginBehind.blank_or_nothing with blank | ⟨-, empty⟩
  · exact fun char starts => other (.inl (blank _ char starts))
  · rcases List.exists_cons_of_ne_nil connection.target.nonempty with ⟨first, more, shape⟩
    have word := connection.target.word first (by simp [shape])
    rw [Connection.behindConnector, empty, List.nil_append, shape]
    rintro char ⟨⟩
    exact other (.inr word)

theorem isSome_messageAt? (connection : Connection .sequence) :
    (messageAt? connection.text).isSome := by
  have source := connection.word?_text
  have target := connection.word?_target
  have before := trimStart_margin connection.isMarginBefore
    (connection.isConnector.head_append connection.behindConnector)
  have behind := trimStart_margin connection.isMarginBehind
    (connection.target.tidy.head_append connection.rest)
  have arrow := read?_arrow connection.isConnector (isPart_behindConnector connection)
  rw [← Connection.behindSource] at before
  rw [← Connection.behindConnector] at behind
  simp [messageAt?, source, before, arrow, behind, target]

end SequenceLine

/-! ### Use-case diagrams and entity diagrams -/

namespace Connection

variable {kind : DiagramKind}

/-- The source leads the line if there is a gap behind it. -/
theorem leadingWord?_text (connection : Connection kind) {rest : List Char}
    (skipped : gap? connection.behindSource = some rest) :
    leadingWord? connection.text = some (connection.source.text, rest) := by
  simp [leadingWord?, connection.word?_text, skipped]

theorem leadingWord?_of_isGap (connection : Connection kind) (isGap : IsGap connection.before) :
    leadingWord? connection.text =
      some (connection.source.text, connection.connector ++ connection.behindConnector) :=
  connection.leadingWord?_text (isGap.gap?_append (connection.isConnector.head_append _))

theorem gap?_of_isGap (connection : Connection kind) (isGap : IsGap connection.behind) :
    gap? connection.behindConnector = some (connection.target.text ++ connection.rest) :=
  isGap.gap?_append (connection.target.tidy.head_append connection.rest)

/-- The parts of a text that is read as a connection with gaps. -/
theorem exists_of_gaps
    {text source connector behindSource behindConnector behindMargin target rest : List Char}
    (leading : leadingWord? text = some (source, behindSource))
    (split : behindSource = connector ++ behindConnector) (isConnector : IsConnector kind connector)
    (skipped : gap? behindConnector = some behindMargin)
    (readTarget : word? behindMargin = some (target, rest)) :
    ∃ connection : Connection kind, text = connection.text ∧ connection.source.text = source ∧
      connection.target.text = target ∧ connection.rest = rest := by
  rcases Option.bind_eq_some_iff.1 leading with ⟨⟨found, behindWord⟩, word, others⟩
  rcases Option.bind_eq_some_iff.1 others with ⟨remaining, skippedSource, same⟩
  cases same
  rcases exists_gap_of_gap? skippedSource with ⟨before, gapBefore, splitSource⟩
  rcases exists_gap_of_gap? skipped with ⟨behind, gapBehind, splitConnector⟩
  rw [split] at splitSource
  exact exists_of_parts word splitSource (.gap gapBefore) isConnector splitConnector
    (.gap gapBehind) readTarget

end Connection

namespace UseCaseLine

theorem exists_connection_of_linkAt? {text : List Char} {stated : Relationship}
    (read : linkAt? text = some stated) :
    ∃ connection : Connection .useCase, text = connection.text ∧ connection.States stated := by
  rcases Option.bind_eq_some_iff.1 read with ⟨⟨source, behindSource⟩, leading, read⟩
  rcases Option.bind_eq_some_iff.1 read with ⟨⟨written, behindLink⟩, drawn, read⟩
  rcases Option.bind_eq_some_iff.1 read with ⟨behindGap, skipped, read⟩
  rcases Option.bind_eq_some_iff.1 read with ⟨⟨target, rest⟩, targetWord, same⟩
  cases same
  rcases LinkGlyph.exists_of_read? drawn with ⟨link, split⟩
  rcases Connection.exists_of_gaps leading split (.link link) skipped targetWord with
    ⟨connection, shape, rfl, rfl, rfl⟩
  exact ⟨connection, shape, rfl, rfl, rfl⟩

theorem read?_link {connector rest : List Char} (isConnector : IsConnector .useCase connector)
    (blank : ∀ char ∈ rest.head?, isBlank char = true) :
    Link.read? (connector ++ rest) = some (connector, rest) := by
  cases isConnector with
  | link link => exact link.read?_append blank

theorem isSome_linkAt? (connection : Connection .useCase) :
    (linkAt? connection.text).isSome := by
  have target := connection.word?_target
  have before := connection.isMarginBefore.isGap (by decide) (by decide)
  have behind := connection.isMarginBehind.isGap (by decide) (by decide)
  have source := connection.leadingWord?_of_isGap before
  have gap := connection.gap?_of_isGap behind
  have link := read?_link connection.isConnector
    (behind.head_append (connection.target.text ++ connection.rest))
  rw [← Connection.behindConnector] at link
  simp [linkAt?, source, link, gap, target]

end UseCaseLine

namespace EntityLine

theorem exists_connection_of_relationAt? {text : List Char} {stated : Relationship}
    (read : relationAt? text = some stated) :
    ∃ connection : Connection .entityRelationship,
      text = connection.text ∧ connection.States stated := by
  rcases Option.bind_eq_some_iff.1 read with ⟨⟨source, behindSource⟩, leading, read⟩
  rcases Option.bind_eq_some_iff.1 read with ⟨⟨written, behindFoot⟩, drawn, read⟩
  rcases Option.bind_eq_some_iff.1 read with ⟨behindGap, skipped, read⟩
  rcases Option.bind_eq_some_iff.1 read with ⟨⟨target, rest⟩, targetWord, same⟩
  cases same
  rcases Foot.exists_of_read? drawn with ⟨left, dotted, right, leftEnd, rightEnd, split⟩
  rcases Connection.exists_of_gaps leading split (.foot dotted leftEnd rightEnd) skipped
    targetWord with ⟨connection, shape, rfl, rfl, rfl⟩
  exact ⟨connection, shape, rfl, rfl, rfl⟩

theorem read?_foot {connector rest : List Char}
    (isConnector : IsConnector .entityRelationship connector)
    (blank : ∀ char ∈ rest.head?, isBlank char = true) :
    CrowsFoot.read? (connector ++ rest) = some (connector, rest) := by
  cases isConnector with
  | foot dotted leftEnd rightEnd => exact Foot.read?_append dotted leftEnd rightEnd blank

/-- The relation that a connection states. -/
def related (connection : Connection .entityRelationship) : Relationship :=
  { kind := .entityRelation
    source := String.ofList connection.source.text
    target := String.ofList connection.target.text
    label := (label? connection.rest).map String.ofList
    sourceCardinality := some (CrowsFoot.cardinality connection.connector .left)
    targetCardinality := some (CrowsFoot.cardinality connection.connector .right) }

theorem relationAt?_connection (connection : Connection .entityRelationship) :
    relationAt? connection.text = some (related connection) := by
  have target := connection.word?_target
  have before := connection.isMarginBefore.isGap (by decide) (by decide)
  have behind := connection.isMarginBehind.isGap (by decide) (by decide)
  have source := connection.leadingWord?_of_isGap before
  have gap := connection.gap?_of_isGap behind
  have foot := read?_foot connection.isConnector
    (behind.head_append (connection.target.text ++ connection.rest))
  rw [← Connection.behindConnector] at foot
  simp [relationAt?, source, foot, gap, target, related]

theorem isSome_relationAt? (connection : Connection .entityRelationship) :
    (relationAt? connection.text).isSome := by
  rw [relationAt?_connection]
  rfl

end EntityLine

/-! ### Class diagrams -/

namespace ClassLine

theorem exists_connection_of_relationship? {text : List Char} {stated : Relationship}
    (read : relationship? text = some stated) :
    ∃ connection : Connection .classes, text = connection.text ∧ connection.States stated := by
  rcases Option.map_eq_some_iff.1 read with ⟨parts, parted, rfl⟩
  rcases Option.bind_eq_some_iff.1 parted with ⟨⟨source, behindSource⟩, leading, read⟩
  rcases Option.bind_eq_some_iff.1 read with ⟨behindQuote, skippedSource, read⟩
  rcases Option.bind_eq_some_iff.1 read with ⟨⟨connector, behindConnector⟩, drawn, read⟩
  rcases Option.bind_eq_some_iff.1 read with ⟨behindGap, gap, read⟩
  rcases Option.bind_eq_some_iff.1 read with ⟨behindMargin, skippedTarget, read⟩
  rcases Option.bind_eq_some_iff.1 read with ⟨⟨target, rest⟩, targetWord, same⟩
  cases same
  rcases Option.bind_eq_some_iff.1 leading with ⟨⟨found, behindWord⟩, word, others⟩
  rcases Option.bind_eq_some_iff.1 others with ⟨remaining, gapSource, same⟩
  cases same
  rcases Glyph.exists_of_read? drawn with ⟨glyph, split⟩
  rcases isMargin_of_skipQuoted? gapSource skippedSource with ⟨before, marginBefore, splitSource⟩
  rcases isMargin_of_skipQuoted? gap skippedTarget with ⟨behind, marginBehind, splitConnector⟩
  rw [split] at splitSource
  rcases Connection.exists_of_parts word splitSource marginBefore (.adorned glyph) splitConnector
    marginBehind targetWord with ⟨connection, shape, rfl, rfl, rfl⟩
  exact ⟨connection, shape, rfl, rfl, rfl⟩

theorem exists_read?_adorned {connector rest : List Char}
    (isConnector : IsConnector .classes connector)
    (blank : ∀ char ∈ rest.head?, isBlank char = true) :
    ∃ adorned, AdornedConnector.read? (connector ++ rest) = some (adorned, rest) ∧
      adorned.text = connector := by
  cases isConnector with
  | adorned glyph => exact ⟨glyph.connector, glyph.read?_append blank, rfl⟩

/-- Neither connectors nor words begin with a quote. -/
theorem unquoted_connector {connector : List Char} (isConnector : IsConnector .classes connector)
    (rest : List Char) :
    ∀ char ∈ (connector ++ rest).head?, isBlank char = false ∧ char ≠ '"' := by
  cases isConnector with
  | adorned glyph =>
      rcases List.exists_cons_of_ne_nil glyph.ne_nil with ⟨first, more, shape⟩
      have visible := glyph.visible first (by simp [shape])
      rw [shape]
      rintro char ⟨⟩
      exact ⟨visible.1, visible.2.1⟩

theorem unquoted_word (word : Word) (rest : List Char) :
    ∀ char ∈ (word.text ++ rest).head?, isBlank char = false ∧ char ≠ '"' := by
  rcases List.exists_cons_of_ne_nil word.nonempty with ⟨first, more, shape⟩
  have isWord := word.word first (by simp [shape])
  rw [shape]
  rintro char ⟨⟩
  refine ⟨isBlank_eq_false_of_isWord isWord, ?_⟩
  rintro rfl
  exact absurd isWord (by decide)

/-- The relationship that a connection states. Its cardinalities are looked for in the
whole line. -/
def related (connection : Connection .classes) : Relationship :=
  { kind := RelationshipKind.ofConnector connection.connector
    source := String.ofList connection.source.text
    target := String.ofList connection.target.text
    label := (label? connection.rest).map String.ofList
    sourceCardinality := quotedCardinality connection.text 0
    targetCardinality := quotedCardinality connection.text 1 }

theorem relationship?_connection (connection : Connection .classes) :
    relationship? connection.text = some (related connection) := by
  have target := connection.word?_target
  rcases skipQuoted?_margin connection.isMarginBefore
    (unquoted_connector connection.isConnector connection.behindConnector) with
    ⟨behindSource, gapSource, skippedSource⟩
  rcases skipQuoted?_margin connection.isMarginBehind
    (unquoted_word connection.target connection.rest) with
    ⟨behindGap, gapTarget, skippedTarget⟩
  have blank : ∀ char ∈ connection.behindConnector.head?, isBlank char = true := by
    rcases connection.isMarginBehind.blank_or_nothing with blank | ⟨other, -⟩
    · exact blank _
    · contradiction
  rcases exists_read?_adorned connection.isConnector blank with ⟨adorned, read, drawn⟩
  have source := connection.leadingWord?_text gapSource
  rw [← Connection.behindConnector] at gapTarget
  simp [relationship?, relationshipParts?, source, skippedSource, read, gapTarget, skippedTarget,
    target, drawn, related]

theorem isSome_relationship? (connection : Connection .classes) :
    (relationship? connection.text).isSome := by
  rw [relationship?_connection]
  rfl

end ClassLine

/-! ## Where connections are found -/

namespace DiagramKind

/-- The relationship that a text begins with. -/
def connectionAt? : DiagramKind → List Char → Option Relationship
  | .classes => ClassLine.relationship?
  | .sequence => SequenceLine.messageAt?
  | .useCase => UseCaseLine.linkAt?
  | .entityRelationship => EntityLine.relationAt?
  | .object | .activity | .component | .state | .deployment | .generic => fun _ => none

variable {kind : DiagramKind} {front line : List Char}

/-- What is read as a relationship is a connection. -/
theorem exists_connection_of_connectionAt? {text : List Char} {stated : Relationship}
    (read : kind.connectionAt? text = some stated) :
    ∃ connection : Connection kind, text = connection.text ∧ connection.States stated := by
  cases kind with
  | classes => exact ClassLine.exists_connection_of_relationship? read
  | sequence => exact SequenceLine.exists_connection_of_messageAt? read
  | useCase => exact UseCaseLine.exists_connection_of_linkAt? read
  | entityRelationship => exact EntityLine.exists_connection_of_relationAt? read
  | object | activity | component | state | deployment | generic => contradiction

/-- Every connection is read as a relationship. -/
theorem isSome_connectionAt? (connection : Connection kind) :
    (kind.connectionAt? connection.text).isSome := by
  cases kind with
  | classes => exact ClassLine.isSome_relationship? connection
  | sequence => exact SequenceLine.isSome_messageAt? connection
  | useCase => exact UseCaseLine.isSome_linkAt? connection
  | entityRelationship => exact EntityLine.isSome_relationAt? connection
  | object | activity | component | state | deployment | generic => nomatch connection.isConnector

/-- Relationships are looked for everywhere in a line, in all diagrams but those of
classes. -/
theorem relationship?_eq_firstAtWord (unanchored : kind ≠ .classes) {stated : Relationship}
    (states : kind.rules.relationship? line = some stated) :
    firstAtWord kind.connectionAt? false line = some stated := by
  cases kind with
  | classes => contradiction
  | sequence | useCase | entityRelationship => exact states
  | object | activity | component | state | deployment | generic => contradiction

/-- A relationship is found at the first connection of the line, which in a class
diagram is the line itself. -/
theorem exists_standsIn_of_relationship? {stated : Relationship}
    (states : kind.rules.relationship? line = some stated) :
    ∃ front, ∃ connection : Connection kind,
      connection.StandsIn front line ∧ connection.States stated ∧
        (kind = .classes → front = []) ∧
        ∀ earlier, ∀ other : Connection kind, other.StandsIn earlier line →
          front.length ≤ earlier.length := by
  by_cases anchored : kind = .classes
  · subst anchored
    have read : DiagramKind.classes.connectionAt? line = some stated := states
    rcases exists_connection_of_connectionAt? read with ⟨connection, rfl, stating⟩
    refine ⟨[], connection, ⟨rfl, ?_⟩, stating, fun _ => rfl, fun _ _ _ => Nat.zero_le _⟩
    rintro last ⟨⟩
  -- An earlier connection could be read as well, so the reader would have stopped there.
  · rcases exists_place_of_firstAtWord (relationship?_eq_firstAtWord anchored states) with
      ⟨front, back, split, -, outside, read, least⟩
    rcases exists_connection_of_connectionAt? read with ⟨connection, rfl, stating⟩
    refine ⟨front, connection, ⟨split, isOutside_iff.1 outside⟩, stating,
      fun same => absurd same anchored, ?_⟩
    intro earlier other stands
    exact least earlier other.text stands.split other.text_ne_nil
      (isOutside_iff.2 stands.outside) (isSome_connectionAt? other)

/-- In diagrams other than those of classes, every connection that stands in a line
makes the line state a relationship. -/
theorem isSome_relationship?_of_standsIn (unanchored : kind ≠ .classes)
    {connection : Connection kind} (stands : connection.StandsIn front line) :
    (kind.rules.relationship? line).isSome := by
  have found : (firstAtWord kind.connectionAt? false line).isSome := by
    rw [stands.split]
    exact isSome_firstAtWord connection.text_ne_nil (isOutside_iff.2 stands.outside)
      (isSome_connectionAt? connection)
  cases kind with
  | classes => contradiction
  | sequence | useCase | entityRelationship => exact found
  | object | activity | component | state | deployment | generic => nomatch connection.isConnector

end DiagramKind

/-! ## The bodies of entities -/

/-- The lines of a block are lines of the source that declare nothing. -/
theorem LineRules.mem_body {rules : LineRules} {lines : List (List Char)}
    {block : Element × List (List Char)} (listed : block ∈ rules.blocks lines) {line : List Char}
    (member : line ∈ block.2) : rules.declaration? line = none := by
  induction lines with
  | nil => exact absurd listed List.not_mem_nil
  | cons first rest ih =>
      cases declares : rules.declaration? first with
      | none =>
          rw [blocks, declares] at listed
          exact ih listed
      | some declared =>
          rw [blocks, declares] at listed
          rcases List.mem_cons.1 listed with rfl | later
          · have undeclared := List.all_eq_true.1 List.all_takeWhile line member
            exact Option.isNone_iff_eq_none.1 undeclared
          · exact ih later

namespace EntityLine

/-- A line that declares nothing and gives an attribute is read as that if no
relation stands in it. -/
theorem entryOf?_eq_field_iff {line : List Char} {field : Attribute}
    (undeclared : entity? line = none) (gives : attribute? line = some field) :
    entryOf? line = some (.field field) ↔
      ∀ front, ∀ connection : Connection .entityRelationship,
        ¬ connection.StandsIn front line := by
  constructor
  · intro read front connection stands
    have related := DiagramKind.isSome_relationship?_of_standsIn (by decide) stands
    have reads : DiagramKind.entityRelationship.rules.Reads line (.field field) :=
      DiagramKind.reads_of_entryOf? read
    cases reads with
    | field _ unrelated _ =>
        rw [unrelated] at related
        contradiction
  · intro free
    cases found : relation? line with
    | none =>
        rw [entryOf?, undeclared, found, gives]
        rfl
    | some stated =>
        have states : DiagramKind.entityRelationship.rules.relationship? line = some stated := found
        rcases DiagramKind.exists_standsIn_of_relationship? states with
          ⟨front, connection, stands, -⟩
        exact absurd stands (free front connection)

end EntityLine

/-! ## The main statement -/

/-- Every relationship of a source is stated by a connection on a content line that
declares nothing. In a class diagram the line begins with it. In diagrams of the other
kinds it is the first one that stands in the line, and it need not be the line's start.
So a line in the body of an entity that begins with an attribute is read as the
attribute, and goes to the entity, only if no connection stands anywhere in it. -/
theorem relationships_stand_in_lines (source : String) :
    (∀ kind : DiagramKind, ∀ stated ∈ (Model.ofSource kind source).relationships,
      ∃ line ∈ contentLines source.toList, kind.rules.declaration? line = none ∧
        ∃ front, ∃ connection : Connection kind,
          connection.StandsIn front line ∧ connection.States stated ∧
            (kind = .classes → front = []) ∧
            ∀ earlier, ∀ other : Connection kind, other.StandsIn earlier line →
              front.length ≤ earlier.length) ∧
      ∀ block ∈ DiagramKind.entityRelationship.rules.blocks (contentLines source.toList),
        ∀ line ∈ block.2, ∀ field, EntityLine.attribute? line = some field →
          (EntityLine.entryOf? line = some (.field field) ↔
            ∀ front, ∀ connection : Connection .entityRelationship,
              ¬ connection.StandsIn front line) ∧
          (EntityLine.entryOf? line = some (.field field) →
            ∃ element ∈ (Model.ofSource .entityRelationship source).elements,
              element.name = block.1.name ∧ field ∈ element.attributes) := by
  constructor
  · intro kind stated member
    rw [Model.relationships_eq_undeclared] at member
    rcases List.mem_filterMap.1 member with ⟨line, listed, states⟩
    rcases List.mem_filter.1 listed with ⟨content, undeclared⟩
    exact ⟨line, content, Option.isNone_iff_eq_none.1 undeclared,
      DiagramKind.exists_standsIn_of_relationship? states⟩
  · intro block listed line member field gives
    have undeclared : EntityLine.entity? line = none := LineRules.mem_body listed member
    refine ⟨EntityLine.entryOf?_eq_field_iff undeclared gives, fun read => ?_⟩
    refine ⟨DiagramKind.entityRelationship.rules.blockElement block, ?_, rfl, ?_⟩
    · rw [Model.elements_eq_blocks]
      exact List.mem_map_of_mem listed
    · have reads : DiagramKind.entityRelationship.rules.Reads line (.field field) :=
        DiagramKind.reads_of_entryOf? read
      cases reads with
      | field _ unrelated _ =>
          exact List.mem_filterMap.2
            ⟨line, List.mem_filter.2 ⟨member, Option.isNone_iff_eq_none.2 unrelated⟩, gives⟩

/-- An order with two attributes, and a relation. What stands behind the type of the
second attribute looks like a relation, too. -/
def orderEntitySource : String :=
  "entity Order \x7b\n  * id : number\n  note : text -- see below\n\x7d\n" ++
    "Order \x7do--|| Customer : by"

/-- The lines that follow the declaration of the order. -/
def orderEntityBody : List (List Char) :=
  [ "* id : number".toList, "note : text -- see below".toList, "\x7d".toList,
    "Order \x7do--|| Customer : by".toList ]

theorem relationships_of_orderEntitySource :
    let customers : Relationship :=
      { kind := .entityRelation, source := "Order", target := "Customer", label := some "by"
        sourceCardinality := some .zeroOrMany, targetCardinality := some .one }
    let field : Attribute := { name := "id", datatype := some "number" }
    (∃ line ∈ contentLines orderEntitySource.toList, ∃ front,
        ∃ connection : Connection .entityRelationship,
          connection.StandsIn front line ∧ connection.States customers) ∧
      (∀ front, ∀ connection : Connection .entityRelationship,
        ¬ connection.StandsIn front "* id : number".toList) ∧
      ∃ element ∈ (Model.ofSource .entityRelationship orderEntitySource).elements,
        element.name = "Order" ∧ field ∈ element.attributes := by
  intro customers field
  rcases relationships_stand_in_lines orderEntitySource with ⟨relationships, attributes⟩
  have related : customers ∈
      (Model.ofSource .entityRelationship orderEntitySource).relationships := by decide +kernel
  have listed : ({ type := "Entity", name := "Order" }, orderEntityBody) ∈
      DiagramKind.entityRelationship.rules.blocks (contentLines orderEntitySource.toList) := by
    decide +kernel
  have gives : EntityLine.attribute? "* id : number".toList = some field := by decide +kernel
  have read : EntityLine.entryOf? "* id : number".toList = some (.field field) := by decide +kernel
  rcases attributes _ listed _ List.mem_cons_self field gives with ⟨free, recorded⟩
  rcases relationships _ customers related with
    ⟨line, content, -, front, connection, stands, states, -⟩
  exact ⟨⟨line, content, front, connection, stands, states⟩, free.1 read, recorded read⟩

/-- So not every relationship starts its line: an attribute with a relation behind its
type is taken for the relation. -/
theorem exists_relationship_behind_attribute :
    ¬ ∀ source, ∀ stated ∈ (Model.ofSource .entityRelationship source).relationships,
      ∃ line ∈ contentLines source.toList, stated.source.toList <+: line := by
  intro starts
  have related : { kind := .entityRelation, source := "B", target := "C"
                   sourceCardinality := some .many, targetCardinality := some .many } ∈
      (Model.ofSource .entityRelationship "entity A\nid : number B -- C").relationships := by
    decide +kernel
  have elsewhere : ∀ line ∈ contentLines "entity A\nid : number B -- C".toList,
      ¬ "B".toList <+: line := by
    decide +kernel
  rcases starts _ _ related with ⟨line, content, starting⟩
  exact elsewhere line content starting

end DiagramGraph
