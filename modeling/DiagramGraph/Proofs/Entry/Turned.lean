import DiagramGraph.Proofs.Entry.Redrawn

/-!
# Connections from their other ends

Every connection of a class diagram or an entity diagram can be written from its other
end: the words and the cardinalities change places, and the connector is drawn as it is
seen in a mirror. It is then read as the same relationship, from its other end.
-/

namespace DiagramGraph

open DiagramGraph.Text DiagramGraph.Written

/-! ## Connectors from their other ends -/

namespace Written

theorem Shaft.mirrored_text (shaft : Shaft) : mirrored shaft.text = shaft.text := by
  cases shaft with
  | dashes more => exact mirrored_replicate (by decide) (more + 1)
  | dots more => exact mirrored_replicate (by decide) (more + 2)

/-- What adorns one end of a connector adorns the other one in a mirror. -/
theorem mirrorChar_mem_adornments :
    (∀ char ∈ AdornedConnector.leftAdornments,
        mirrorChar char ∈ AdornedConnector.rightAdornments) ∧
      ∀ char ∈ AdornedConnector.rightAdornments,
        mirrorChar char ∈ AdornedConnector.leftAdornments :=
  ⟨List.all_iff_forall_prop.1 (by decide), List.all_iff_forall_prop.1 (by decide)⟩

/-- The connector as it is seen from behind. -/
def Glyph.turned (glyph : Glyph) : Glyph where
  left := mirrored glyph.right
  shaft := glyph.shaft
  right := mirrored glyph.left
  leftAdorns := by
    intro char member
    rw [← mirrorChar_mirrorChar char]
    exact mirrorChar_mem_adornments.2 _ (glyph.rightAdorns _ (mem_mirrored.1 member))
  rightAdorns := by
    intro char member
    rw [← mirrorChar_mirrorChar char]
    exact mirrorChar_mem_adornments.1 _ (glyph.leftAdorns _ (mem_mirrored.1 member))

theorem Glyph.text_turned (glyph : Glyph) :
    glyph.turned.connector.text = mirrored glyph.connector.text := by
  simp only [connector, turned, AdornedConnector.text, mirrored_append, glyph.shaft.mirrored_text,
    List.append_assoc]

end Written

namespace CrowsFoot

/-- A right end is a left end in a mirror. -/
theorem isLeftEnd_mirrored {text : List Char} (rightEnd : isRightEnd text = true) :
    isLeftEnd (mirrored text) = true := by
  rcases text with _ | ⟨first, _ | ⟨second, _ | ⟨third, more⟩⟩⟩
  · rfl
  · simp only [isRightEnd, Bool.or_eq_true, beq_iff_eq] at rightEnd
    rcases rightEnd with (rfl | rfl) | rfl <;> decide
  · simp only [isRightEnd, Bool.and_eq_true, Bool.or_eq_true, beq_iff_eq] at rightEnd
    rcases rightEnd with ⟨rfl | rfl, (rfl | rfl) | rfl⟩ <;> decide
  · contradiction

/-- A left end is a right end in a mirror. -/
theorem isRightEnd_mirrored {text : List Char} (leftEnd : isLeftEnd text = true) :
    isRightEnd (mirrored text) = true := by
  rcases text with _ | ⟨first, _ | ⟨second, _ | ⟨third, more⟩⟩⟩
  · rfl
  · simp only [isLeftEnd, Bool.or_eq_true, beq_iff_eq] at leftEnd
    rcases leftEnd with (rfl | rfl) | rfl <;> decide
  · simp only [isLeftEnd, Bool.and_eq_true, Bool.or_eq_true, beq_iff_eq] at leftEnd
    rcases leftEnd with ⟨(rfl | rfl) | rfl, rfl | rfl⟩ <;> decide
  · contradiction

end CrowsFoot

/-- The connectors of class diagrams and of entity diagrams are such from behind as well. -/
theorem IsConnector.mirrored {kind : DiagramKind} {connector : List Char}
    (turns : kind = .classes ∨ kind = .entityRelationship)
    (isConnector : IsConnector kind connector) :
    IsConnector kind (mirrored connector) := by
  cases isConnector with
  | adorned glyph =>
      rw [← glyph.text_turned]
      exact .adorned glyph.turned
  | foot dotted leftEnd rightEnd =>
      have shaft : DiagramGraph.mirrored (Foot.shaftText dotted) = Foot.shaftText dotted := by
        cases dotted <;> decide
      rw [mirrored_append, mirrored_append, shaft, List.append_assoc]
      exact .foot dotted (CrowsFoot.isLeftEnd_mirrored rightEnd)
        (CrowsFoot.isRightEnd_mirrored leftEnd)
  | arrow arrow => simp at turns
  | link link => simp at turns

/-! ## Connections and relationships from their other ends -/

/-- The relationship from its other end. -/
def Relationship.reversed (stated : Relationship) : Relationship :=
  { stated with
    source := stated.target
    target := stated.source
    sourceCardinality := stated.targetCardinality
    targetCardinality := stated.sourceCardinality }

namespace Connection

variable {kind : DiagramKind}

/-- The second connection is the first one from its other end. What stands in the margins is
left open. -/
structure Turned (connection other : Connection kind) : Prop where
  source : other.source = connection.target
  connector : other.connector = mirrored connection.connector
  target : other.target = connection.source
  rest : other.rest = connection.rest

/-- The connection from its other end, with the margins exchanged. -/
def turned (connection : Connection kind)
    (turns : kind = .classes ∨ kind = .entityRelationship) : Connection kind where
  source := connection.target
  before := connection.behind
  connector := mirrored connection.connector
  behind := connection.before
  target := connection.source
  rest := connection.rest
  isMarginBefore := connection.isMarginBehind
  isConnector := connection.isConnector.mirrored turns
  isMarginBehind := connection.isMarginBefore
  ended := connection.ended

theorem turned_spec (connection : Connection kind)
    (turns : kind = .classes ∨ kind = .entityRelationship) :
    connection.Turned (connection.turned turns) :=
  ⟨rfl, rfl, rfl, rfl⟩

end Connection

/-! ## Entity diagrams -/

namespace EntityLine

variable {connection other : Connection .entityRelationship}

/-- A connection that does not begin like a declaration is read as a relation. -/
theorem entryOf?_connection (undeclaring : connection.source.text ≠ entityWord.text) :
    entryOf? connection.text = some (.relationship (related connection)) := by
  have isGap := connection.isMarginBefore.isGap (by decide) (by decide)
  have undeclared : entity? connection.text = none := by
    have read : Declaration.read? "entity".toList connection.text = none := by
      rw [Declaration.read?_of_leadingWord? (connection.leadingWord?_of_isGap isGap)]
      exact if_neg undeclaring
    rw [entity?, read]
    rfl
  have found : relation? connection.text = some (related connection) :=
    connection.source.firstAtWord_append (relationAt?_connection connection)
  rw [entryOf?, undeclared, found]
  rfl

/-- From its other end, a connection states the relation from its other end. -/
theorem related_turned (turned : connection.Turned other) :
    related other = (related connection).reversed := by
  simp only [related, Relationship.reversed, turned.source, turned.target, turned.rest,
    turned.connector, CrowsFoot.cardinality_left_mirrored, CrowsFoot.cardinality_right_mirrored]

end EntityLine

/-! ## Class diagrams -/

/-- A margin holds a quoted cardinality that is not empty. -/
def Encloses (margin : List Char) (quote : Quote) : Prop :=
  ∃ front back, IsGap front ∧ IsGap back ∧ margin = front ++ (quote.written ++ back)

/-- What a connection says about its ends: a quoted cardinality for each, or nothing at all,
with no quotes behind it. -/
inductive Numbered (connection : Connection .classes) : Option (Quote × Quote) → Prop where
  | unquoted (before : IsGap connection.before) (behind : IsGap connection.behind)
      (plain : '"' ∉ connection.rest) : Numbered connection none
  | quoted {source target : Quote} (before : Encloses connection.before source)
      (behind : Encloses connection.behind target) : Numbered connection (some (source, target))

theorem Numbered.turned {connection : Connection .classes} {numbers : Option (Quote × Quote)}
    (numbered : Numbered connection numbers)
    (turns : DiagramKind.classes = .classes ∨ DiagramKind.classes = .entityRelationship) :
    Numbered (connection.turned turns) (numbers.map Prod.swap) := by
  cases numbered with
  | unquoted before behind plain => exact .unquoted behind before plain
  | quoted before behind => exact .quoted behind before

namespace ClassLine

open Link

theorem unquoted_isGap {gap : List Char} (isGap : IsGap gap) : '"' ∉ gap := by
  intro member
  exact absurd (isGap.blank '"' member) (by decide)

theorem unquoted_glyph {connector : List Char} (isConnector : IsConnector .classes connector) :
    '"' ∉ connector := by
  rcases isConnector.exists_glyph with ⟨glyph, rfl⟩
  exact fun member => (glyph.visible '"' member).2.1 rfl

/-- An enclosed cardinality is found, and nothing else is in its margin. -/
theorem quotedTexts_encloses {margin : List Char} {quote : Quote} (encloses : Encloses margin quote)
    (rest : List Char) :
    quotedTexts none (margin ++ rest) = quote.text :: quotedTexts none rest := by
  rcases encloses with ⟨front, back, isGapFront, isGapBack, rfl⟩
  have opened : quote.written ++ (back ++ rest) = '"' :: (quote.text ++ '"' :: (back ++ rest)) := by
    simp [Quote.written]
  calc
    quotedTexts none (front ++ (quote.written ++ back) ++ rest)
    _ = quotedTexts none (quote.written ++ (back ++ rest)) := by
      rw [List.append_assoc, quotedTexts_append (unquoted_isGap isGapFront), List.append_assoc]
    _ = quotedTexts (some []) (quote.text ++ '"' :: (back ++ rest)) := by
      rw [opened]
      rfl
    _ = quote.text :: quotedTexts none (back ++ rest) :=
      quotedTexts_inside quote.plain [] (back ++ rest) quote.nonempty
    _ = quote.text :: quotedTexts none rest := by
      rw [quotedTexts_append (unquoted_isGap isGapBack)]

/-- The first two quoted texts of the line are the cardinalities of the connection. -/
theorem quotedCardinality_numbered {connection : Connection .classes}
    {numbers : Option (Quote × Quote)} (numbered : Numbered connection numbers) :
    quotedCardinality connection.text 0 =
        numbers.map (fun pair => Cardinality.ofText (String.ofList pair.1.text)) ∧
      quotedCardinality connection.text 1 =
        numbers.map fun pair => Cardinality.ofText (String.ofList pair.2.text) := by
  have wordless : isWord '"' = false := by decide
  have source := connection.source.notMem wordless
  have target := connection.target.notMem wordless
  have drawn := unquoted_glyph connection.isConnector
  rw [quotedCardinality, quotedCardinality, Connection.text, quotedTexts_append source]
  cases numbered with
  | unquoted before behind plain =>
      rw [quotedTexts_append (unquoted_isGap before), quotedTexts_append drawn,
        quotedTexts_append (unquoted_isGap behind), quotedTexts_append target,
        quotedTexts_eq_nil plain]
      exact ⟨rfl, rfl⟩
  | quoted before behind =>
      rw [quotedTexts_encloses before, quotedTexts_append drawn, quotedTexts_encloses behind]
      exact ⟨rfl, rfl⟩

/-- A connection that does not begin like a declaration declares nothing. -/
theorem declaration?_connection {connection : Connection .classes}
    (undeclaring : connection.source.text ∉ declaringWords) :
    declaration? connection.text = none := by
  rw [← Option.not_isSome_iff_eq_none]
  rcases connection.isMarginBefore.gap_or_quoted with
    isGap | ⟨front, inner, back, apart, plain, -, margin⟩
  · rw [isSome_declaration?_gap isGap]
    exact fun declares => undeclaring declares.1
  · rw [isSome_declaration?_quoted apart plain margin]
    exact fun declares => undeclaring declares.1

/-- From its other end, a connection states the relationship from its other end. -/
theorem related_turned {connection other : Connection .classes}
    {numbers : Option (Quote × Quote)} (turned : connection.Turned other)
    (numbered : Numbered connection numbers)
    (others : Numbered other (numbers.map Prod.swap)) :
    related other = (related connection).reversed := by
  rcases quotedCardinality_numbered numbered with ⟨source, target⟩
  rcases quotedCardinality_numbered others with ⟨otherSource, otherTarget⟩
  rw [related, otherSource, otherTarget, related, source, target, Relationship.reversed,
    turned.source, turned.target, turned.rest, turned.connector,
    RelationshipKind.ofConnector_mirrored]
  cases numbers <;> rfl

end ClassLine

/-! ## The main statement -/

/-- A mirrored connector shows the same kind, and its cardinalities at the other ends. So a
connection whose ends are no words for declarations is read from either end as the same
relationship, if it has a cardinality at both ends or no quotes at all. -/
theorem connections_from_both_ends :
    (∀ connector,
      RelationshipKind.ofConnector (mirrored connector) = RelationshipKind.ofConnector connector ∧
        CrowsFoot.cardinality (mirrored connector) .left =
          CrowsFoot.cardinality connector .right) ∧
      (∀ (connection : Connection .classes) (numbers : Option (Quote × Quote)),
        Numbered connection numbers →
        connection.source.text ∉ ClassLine.declaringWords →
        connection.target.text ∉ ClassLine.declaringWords →
          ClassLine.entryOf? connection.text =
              some (.relationship (ClassLine.related connection)) ∧
            (∃ other, connection.Turned other ∧ Numbered other (numbers.map Prod.swap)) ∧
            ∀ other, connection.Turned other → Numbered other (numbers.map Prod.swap) →
              ClassLine.entryOf? other.text =
                some (.relationship (ClassLine.related connection).reversed)) ∧
      ∀ connection : Connection .entityRelationship,
        connection.source.text ≠ entityWord.text → connection.target.text ≠ entityWord.text →
          EntityLine.entryOf? connection.text =
              some (.relationship (EntityLine.related connection)) ∧
            (∃ other, connection.Turned other) ∧
            ∀ other, connection.Turned other →
              EntityLine.entryOf? other.text =
                some (.relationship (EntityLine.related connection).reversed) := by
  refine ⟨?connectors, ?classes, ?entities⟩
  case connectors =>
    exact fun connector => ⟨RelationshipKind.ofConnector_mirrored connector,
      CrowsFoot.cardinality_left_mirrored connector⟩
  case classes =>
    intro connection numbers numbered source target
    refine ⟨ClassLine.entryOf?_connection (ClassLine.declaration?_connection source),
      ⟨connection.turned (.inl rfl), connection.turned_spec (.inl rfl),
        numbered.turned (.inl rfl)⟩, ?_⟩
    intro other turned others
    rw [← turned.source] at target
    rw [← ClassLine.related_turned turned numbered others]
    exact ClassLine.entryOf?_connection (ClassLine.declaration?_connection target)
  case entities =>
    intro connection source target
    refine ⟨EntityLine.entryOf?_connection source,
      ⟨connection.turned (.inr rfl), connection.turned_spec (.inr rfl)⟩, ?_⟩
    intro other turned
    rw [← turned.source] at target
    rw [← EntityLine.related_turned turned]
    exact EntityLine.entryOf?_connection target

/-- A composition with a cardinality at both ends. -/
def wheelConnection : Connection .classes where
  source := ⟨"Car".toList, by decide, List.all_iff_forall_prop.1 (by decide)⟩
  before := [' '] ++ '"' :: (['1'] ++ '"' :: [' '])
  connector := "*-->".toList
  behind := [' '] ++ '"' :: (['4'] ++ '"' :: [' '])
  target := ⟨"Wheel".toList, by decide, List.all_iff_forall_prop.1 (by decide)⟩
  rest := " : \"all\"".toList
  isMarginBefore := .quoted isGap_blank (by decide) isGap_blank
  isConnector := .adorned ⟨['*'], .dashes 1, ['>'], List.all_iff_forall_prop.1 (by decide),
    List.all_iff_forall_prop.1 (by decide)⟩
  isMarginBehind := .quoted isGap_blank (by decide) isGap_blank
  ended := by
    rintro char ⟨⟩
    decide

/-- The cardinality of the car. -/
def carNumber : Quote :=
  ⟨['1'], by decide, by decide, by decide⟩

/-- The cardinality of the wheels. -/
def wheelNumber : Quote :=
  ⟨['4'], by decide, by decide, by decide⟩

/-- A relation between entities. -/
def parcelConnection : Connection .entityRelationship where
  source := ⟨"Parcel".toList, by decide, List.all_iff_forall_prop.1 (by decide)⟩
  before := [' ']
  connector := "\x7do".toList ++ (Foot.shaftText true ++ ['|'])
  behind := [' ']
  target := ⟨"Sender".toList, by decide, List.all_iff_forall_prop.1 (by decide)⟩
  rest := []
  isMarginBefore := .gap isGap_blank
  isConnector := .foot true (by decide) (by decide)
  isMarginBehind := .gap isGap_blank
  ended := by simp

theorem wheels_and_parcels_from_both_ends :
    ClassLine.entryOf? "Car \"1\" *--> \"4\" Wheel : \"all\"".toList =
        some (.relationship (ClassLine.related wheelConnection)) ∧
      ClassLine.entryOf? "Wheel \"4\" <--* \"1\" Car : \"all\"".toList =
        some (.relationship (ClassLine.related wheelConnection).reversed) ∧
      EntityLine.entryOf? "Parcel \x7do..| Sender".toList =
        some (.relationship (EntityLine.related parcelConnection)) ∧
      EntityLine.entryOf? "Sender |..o\x7b Parcel".toList =
        some (.relationship (EntityLine.related parcelConnection).reversed) := by
  rcases connections_from_both_ends with ⟨-, classes, entities⟩
  have numbered : Numbered wheelConnection (some (carNumber, wheelNumber)) :=
    .quoted ⟨[' '], [' '], isGap_blank, isGap_blank, rfl⟩
      ⟨[' '], [' '], isGap_blank, isGap_blank, rfl⟩
  rcases classes wheelConnection (some (carNumber, wheelNumber)) numbered (by decide)
    (by decide) with ⟨wheels, -, wheelsTurned⟩
  rcases entities parcelConnection (by decide) (by decide) with ⟨parcels, -, parcelsTurned⟩
  exact ⟨wheels,
    wheelsTurned (wheelConnection.turned (.inl rfl)) (wheelConnection.turned_spec (.inl rfl))
      (numbered.turned (.inl rfl)),
    parcels,
    parcelsTurned (parcelConnection.turned (.inr rfl)) (parcelConnection.turned_spec (.inr rfl))⟩

end DiagramGraph
