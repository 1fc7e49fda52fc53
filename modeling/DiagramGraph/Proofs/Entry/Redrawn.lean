import DiagramGraph.Proofs.Connector.Kind
import DiagramGraph.Proofs.Entry.Connection

/-!
# Connections with longer shafts

The kind of a connector is decided by its adornments and by what its shaft is made of.
A shaft of two marks is long enough to show them, and a longer one shows no more. A line
on which the shaft is lengthened states a relationship if it did so before, between the
same ends and of the same kind.
-/

namespace DiagramGraph

open DiagramGraph.Text DiagramGraph.Written

/-! ## Names that can be declared -/

namespace Declaration

theorem isSome_named? (text : List Char) : (named? text).isSome = (name? text).isSome := by
  rw [named?, namePart?]
  cases name? text with
  | none => rfl
  | some found =>
      rcases found with ⟨name, rest⟩
      cases called : aliasName? rest <;> simp [called]

/-- A name that is not in quotes is a word. -/
theorem isSome_named?_bare {text : List Char} (bare : ∀ char ∈ text.head?, char ≠ '"') :
    (named? text).isSome ↔ ∃ char ∈ text.head?, isWord char = true := by
  rw [isSome_named?, name?, quoted?_eq_none bare, word?, run?, ← takeWhile_ne_nil_iff]
  cases text.takeWhile isWord <;> simp

/-- A name in quotes is any text between them, but not an empty one. -/
theorem isSome_named?_quoted {inner : List Char} (plain : '"' ∉ inner) (rest : List Char) :
    (named? ('"' :: (inner ++ '"' :: rest))).isSome ↔ inner ≠ [] := by
  have quoted : quoted? ('"' :: (inner ++ '"' :: rest)) = some (inner, rest) :=
    upTo?_append plain rest
  have noWord : word? ('"' :: (inner ++ '"' :: rest)) = none := by
    apply run?_eq_none
    rintro char ⟨⟩
    decide
  rw [isSome_named?, name?, quoted]
  cases inner with
  | nil => simpa using noWord
  | cons first more => simp

end Declaration

/-! ## Connections that are taken for declarations -/

/-- In a class diagram, a margin is a gap, or it holds a quoted text. -/
theorem IsMargin.gap_or_quoted {margin : List Char} (isMargin : IsMargin .classes margin) :
    IsGap margin ∨ ∃ front inner back, IsGap front ∧ '"' ∉ inner ∧ IsGap back ∧
      margin = front ++ '"' :: (inner ++ '"' :: back) := by
  cases isMargin with
  | gap isGap => exact .inl isGap
  | quoted before plain after => exact .inr ⟨_, _, _, before, plain, after, rfl⟩

theorem IsConnector.exists_glyph {connector : List Char}
    (isConnector : IsConnector .classes connector) :
    ∃ glyph : Glyph, connector = glyph.connector.text := by
  cases isConnector with
  | adorned glyph => exact ⟨glyph, rfl⟩

/-- A connector begins neither with a quote nor like the word `class`. -/
theorem IsConnector.exists_head {connector : List Char}
    (isConnector : IsConnector .classes connector) :
    ∃ first more, connector = first :: more ∧ first ≠ '"' ∧ first ≠ 'c' := by
  rcases isConnector.exists_glyph with ⟨glyph, rfl⟩
  rcases List.exists_cons_of_ne_nil glyph.ne_nil with ⟨first, more, shape⟩
  exact ⟨first, more, shape, (glyph.visible first (by simp [shape])).2⟩

namespace ClassLine

/-- The words that begin a declaration, apart from a modifier. -/
def declaringWords : List (List Char) :=
  [classWord.text, interfaceWord.text, enumWord.text]

section Declaring

variable {connection : Connection .classes}

/-- Without a cardinality behind its source, a connection is taken for a declaration if the
source is a word for that and the connector begins like a word. -/
theorem isSome_declaration?_gap (isGap : IsGap connection.before) :
    (declaration? connection.text).isSome ↔
      connection.source.text ∈ declaringWords ∧
        ∃ first ∈ connection.connector.head?, isWord first = true := by
  rcases connection.isConnector.exists_head with ⟨first, more, shape, unquoted, other⟩
  have read := connection.leadingWord?_of_isGap isGap
  rw [shape, List.cons_append] at read
  have bare : ∀ char ∈ (first :: (more ++ connection.behindConnector)).head?, char ≠ '"' := by
    simpa using unquoted
  rw [isSome_declaration?_iff read (by simpa using other), Declaration.isSome_named?_bare bare,
    shape]
  rfl

/-- With a cardinality behind its source, a connection is taken for a declaration if the
source is a word for that and the cardinality is not empty. -/
theorem isSome_declaration?_quoted {front inner back : List Char} (apart : IsGap front)
    (plain : '"' ∉ inner) (margin : connection.before = front ++ '"' :: (inner ++ '"' :: back)) :
    (declaration? connection.text).isSome ↔
      connection.source.text ∈ declaringWords ∧ inner ≠ [] := by
  have behind : connection.behindSource = front ++ '"' :: (inner ++ '"' ::
      (back ++ (connection.connector ++ connection.behindConnector))) := by
    simp [Connection.behindSource, margin]
  have skipped : gap? connection.behindSource = some ('"' :: (inner ++ '"' ::
      (back ++ (connection.connector ++ connection.behindConnector)))) := by
    rw [behind]
    apply apart.gap?_append
    rintro char ⟨⟩
    decide
  rw [isSome_declaration?_iff (connection.leadingWord?_text skipped) (by simp),
    Declaration.isSome_named?_quoted plain]
  rfl

end Declaring

/-- Whether a connection is taken for a declaration does not depend on its connector but for
the first character. -/
theorem isSome_declaration?_congr {connection other : Connection .classes}
    (source : other.source = connection.source) (before : other.before = connection.before)
    (head : other.connector.head? = connection.connector.head?) :
    (declaration? other.text).isSome = (declaration? connection.text).isSome := by
  rw [Bool.eq_iff_iff]
  rcases connection.isMarginBefore.gap_or_quoted with
    isGap | ⟨front, inner, back, apart, plain, -, margin⟩
  · rw [isSome_declaration?_gap isGap, isSome_declaration?_gap (before ▸ isGap), source, head]
  · rw [isSome_declaration?_quoted apart plain margin,
      isSome_declaration?_quoted apart plain (before.trans margin), source]

end ClassLine

/-! ## Longer shafts -/

namespace Written

/-- The number of marks of a shaft. -/
def Shaft.count : Shaft → Nat
  | dashes more => more + 1
  | dots more => more + 2

/-- The shaft with further marks. -/
def Shaft.lengthened (further : Nat) : Shaft → Shaft
  | dashes more => dashes (more + further)
  | dots more => dots (more + further)

/-- The connector with a longer shaft. -/
def Glyph.lengthened (glyph : Glyph) (further : Nat) : Glyph :=
  { glyph with shaft := glyph.shaft.lengthened further }

/-- The kind that the adornments and the marks of a connector show. -/
def Glyph.kind (glyph : Glyph) : RelationshipKind :=
  match glyph.shaft with
  | .dashes _ => dashedKind glyph.left glyph.right
  | .dots _ => dottedKind glyph.left glyph.right

namespace Glyph

variable (glyph : Glyph) (further : Nat)

/-- A shaft of two marks or more shows the kind. -/
theorem ofConnector_eq_kind (long : 2 ≤ glyph.shaft.count) :
    RelationshipKind.ofConnector glyph.connector.text = glyph.kind := by
  rcases glyph with ⟨left, shaft, right, leftAdorns, rightAdorns⟩
  cases shaft with
  | dashes more =>
      rw [connector, AdornedConnector.text, List.append_assoc]
      exact RelationshipKind.ofConnector_dashes leftAdorns rightAdorns long
  | dots more =>
      rw [connector, AdornedConnector.text, List.append_assoc]
      exact RelationshipKind.ofConnector_dots leftAdorns rightAdorns long

theorem kind_lengthened : (glyph.lengthened further).kind = glyph.kind := by
  rcases glyph with ⟨left, shaft, right, leftAdorns, rightAdorns⟩
  cases shaft <;> rfl

theorem count_le_lengthened : glyph.shaft.count ≤ (glyph.lengthened further).shaft.count := by
  rcases glyph with ⟨left, shaft, right, leftAdorns, rightAdorns⟩
  cases shaft <;> simp only [lengthened, Shaft.lengthened, Shaft.count] <;> omega

theorem head?_lengthened :
    (glyph.lengthened further).connector.text.head? = glyph.connector.text.head? := by
  rcases glyph with ⟨left, shaft, right, leftAdorns, rightAdorns⟩
  cases shaft <;> simp [lengthened, Shaft.lengthened, connector, AdornedConnector.text, Shaft.text,
    List.replicate_succ, List.head?_append]

end Glyph

end Written

/-- The connection with another connector. -/
def Connection.redrawn (connection : Connection .classes) (glyph : Glyph) : Connection .classes :=
  { connection with
    connector := glyph.connector.text
    isConnector := .adorned glyph }

namespace ClassLine

/-- A connection that is not taken for a declaration is read as a relationship. -/
theorem entryOf?_connection {connection : Connection .classes}
    (undeclared : declaration? connection.text = none) :
    entryOf? connection.text = some (.relationship (related connection)) := by
  rw [entryOf?, undeclared, relationship?_connection]
  rfl

/-- A line that is read as a relationship declares nothing and states the relationship. -/
theorem undeclared_and_stated_of_entryOf? {line : List Char} {stated : Relationship}
    (read : entryOf? line = some (.relationship stated)) :
    declaration? line = none ∧ relationship? line = some stated := by
  have reads : DiagramKind.classes.rules.Reads line (.relationship stated) :=
    DiagramKind.reads_of_entryOf? read
  cases reads with
  | relationship undeclared states => exact ⟨undeclared, states⟩

/-- A line that states a relationship is a connection with a connector of the grammar. -/
theorem exists_drawn_of_entryOf? {line : List Char} {stated : Relationship}
    (read : entryOf? line = some (.relationship stated)) :
    ∃ (connection : Connection .classes) (glyph : Glyph),
      line = connection.text ∧ connection.connector = glyph.connector.text := by
  rcases undeclared_and_stated_of_entryOf? read with ⟨-, states⟩
  rcases exists_connection_of_relationship? states with ⟨connection, written, -⟩
  rcases connection.isConnector.exists_glyph with ⟨glyph, drawn⟩
  exact ⟨connection, glyph, written, drawn⟩

/-- A line on which a shaft of two marks or more is lengthened states a relationship of the
same kind. -/
theorem entryOf?_lengthened {connection : Connection .classes} {glyph : Glyph}
    (drawn : connection.connector = glyph.connector.text) (long : 2 ≤ glyph.shaft.count)
    (further : Nat) {stated : Relationship}
    (read : entryOf? connection.text = some (.relationship stated)) :
    ∃ again, entryOf? (connection.redrawn (glyph.lengthened further)).text =
        some (.relationship again) ∧
      again.kind = stated.kind ∧ again.source = stated.source ∧ again.target = stated.target ∧
        again.label = stated.label := by
  rcases undeclared_and_stated_of_entryOf? read with ⟨undeclared, states⟩
  rw [relationship?_connection] at states
  cases states
  have head : (connection.redrawn (glyph.lengthened further)).connector.head? =
      connection.connector.head? := by
    rw [drawn]
    exact glyph.head?_lengthened further
  have same : (declaration? (connection.redrawn (glyph.lengthened further)).text).isSome =
      (declaration? connection.text).isSome := isSome_declaration?_congr rfl rfl head
  have still : declaration? (connection.redrawn (glyph.lengthened further)).text = none := by
    rw [← Option.not_isSome_iff_eq_none, same, undeclared]
    exact Bool.false_ne_true
  refine ⟨_, entryOf?_connection still, ?_, rfl, rfl, rfl⟩
  -- The longer shaft has at least two marks as well, and the adornments are the same.
  calc
    RelationshipKind.ofConnector (glyph.lengthened further).connector.text
    _ = (glyph.lengthened further).kind :=
      Glyph.ofConnector_eq_kind _ (long.trans (glyph.count_le_lengthened further))
    _ = glyph.kind := glyph.kind_lengthened further
    _ = RelationshipKind.ofConnector connection.connector := by
      rw [drawn, glyph.ofConnector_eq_kind long]

end ClassLine

/-! ## The main statement -/

/-- Of a connector with a shaft of at least two marks, nothing counts for the kind but the
adornments and the sort of its marks. So a line that states a relationship, with whatever
connector, keeps the kind of it when such a shaft is lengthened. -/
theorem adornments_and_marks_decide_kind :
    (∀ left right : List Char, (∀ char ∈ left, char ∈ AdornedConnector.leftAdornments) →
      (∀ char ∈ right, char ∈ AdornedConnector.rightAdornments) → ∀ count, 2 ≤ count →
        RelationshipKind.ofConnector (left ++ (List.replicate count '-' ++ right)) =
            dashedKind left right ∧
          RelationshipKind.ofConnector (left ++ (List.replicate count '.' ++ right)) =
            dottedKind left right) ∧
      (∀ line stated, ClassLine.entryOf? line = some (.relationship stated) →
        ∃ (connection : Connection .classes) (glyph : Glyph),
          line = connection.text ∧ connection.connector = glyph.connector.text) ∧
      ∀ (connection : Connection .classes) (glyph : Glyph),
        connection.connector = glyph.connector.text → 2 ≤ glyph.shaft.count →
          ∀ further stated, ClassLine.entryOf? connection.text = some (.relationship stated) →
            ∃ again, ClassLine.entryOf? (connection.redrawn (glyph.lengthened further)).text =
                some (.relationship again) ∧
              again.kind = stated.kind ∧ again.source = stated.source ∧
                again.target = stated.target ∧ again.label = stated.label := by
  refine ⟨?connectors, fun line stated => ClassLine.exists_drawn_of_entryOf?, ?lines⟩
  case connectors =>
    intro left right leftAdorns rightAdorns count long
    exact ⟨RelationshipKind.ofConnector_dashes leftAdorns rightAdorns long,
      RelationshipKind.ofConnector_dots leftAdorns rightAdorns long⟩
  case lines =>
    intro connection glyph drawn long further stated read
    exact ClassLine.entryOf?_lengthened drawn long further read

theorem isGap_blank : IsGap [' '] :=
  ⟨by decide, List.all_iff_forall_prop.1 (by decide)⟩

/-- An arrow with a triangle at one end and a diamond at the other. -/
def diamondGlyph : Glyph where
  left := ['<', '|']
  shaft := .dashes 1
  right := ['*']
  leftAdorns := List.all_iff_forall_prop.1 (by decide)
  rightAdorns := List.all_iff_forall_prop.1 (by decide)

/-- A line with the arrow. -/
def diamondConnection : Connection .classes where
  source := ⟨"Shape".toList, by decide, List.all_iff_forall_prop.1 (by decide)⟩
  before := [' ']
  connector := diamondGlyph.connector.text
  behind := [' ']
  target := ⟨"Square".toList, by decide, List.all_iff_forall_prop.1 (by decide)⟩
  rest := " : of".toList
  isMarginBefore := .gap isGap_blank
  isConnector := .adorned diamondGlyph
  isMarginBehind := .gap isGap_blank
  ended := by
    rintro char ⟨⟩
    decide

/-- The relationship on the line. -/
def diamondRelationship : Relationship where
  kind := .extension
  source := "Shape"
  target := "Square"
  label := some "of"

theorem adornments_and_marks_decide_diamond :
    RelationshipKind.ofConnector "<|---*".toList = dashedKind ['<', '|'] ['*'] ∧
      RelationshipKind.ofConnector "<|...*".toList = dottedKind ['<', '|'] ['*'] ∧
      ClassLine.entryOf? diamondConnection.text = some (.relationship diamondRelationship) ∧
      ∃ again, ClassLine.entryOf? "Shape <|-----* Square : of".toList =
        some (.relationship again) ∧ again.kind = .extension := by
  rcases adornments_and_marks_decide_kind with ⟨connectors, -, lines⟩
  have drawn := connectors ['<', '|'] ['*'] diamondGlyph.leftAdorns diamondGlyph.rightAdorns 3
    (by decide)
  have read : ClassLine.entryOf? diamondConnection.text =
      some (.relationship diamondRelationship) := by decide +kernel
  rcases lines diamondConnection diamondGlyph rfl (by decide) 3 diamondRelationship read with
    ⟨again, reads, kind, -⟩
  exact ⟨drawn.1, drawn.2, read, again, reads, kind⟩

end DiagramGraph
