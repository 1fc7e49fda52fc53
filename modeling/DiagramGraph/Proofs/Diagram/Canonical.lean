import DiagramGraph.Proofs.Diagram.Codec
import DiagramGraph.Proofs.Entry.Assembly
import DiagramGraph.Proofs.Text.Part
import DiagramGraph.Source

/-!
# Where models come from

A model is read from a source or from a record. Either way its cardinalities
are made from texts or taken from a table of named cardinalities, so every
model that can come up is canonical.
-/

namespace DiagramGraph

open DiagramGraph.Json DiagramGraph.Text

/-! ## Models from records -/

theorem Cardinality.canonical_of_ofJson? {value : Value} {cardinality : Cardinality}
    (reading : ofJson? value = some cardinality) : cardinality.Canonical := by
  obtain ⟨text, -, rfl⟩ := Option.map_eq_some_iff.1 reading
  exact canonical_ofText text

theorem Relationship.canonical_of_ofJson? {value : Value} {relationship : Relationship}
    (reading : ofJson? value = some relationship) : relationship.Canonical := by
  simp only [ofJson?, Option.bind_eq_bind, Option.bind_eq_some_iff, Option.pure_def,
    Option.some.injEq] at reading
  obtain ⟨fields, -, kind, -, source, -, target, -, label, -, sourceCardinality, sourceRead,
    targetCardinality, targetRead, message, -, synchronous, -, rfl⟩ := reading
  constructor
  · exact optional_eq_some (fun _ _ => Cardinality.canonical_of_ofJson?) sourceRead
  · exact optional_eq_some (fun _ _ => Cardinality.canonical_of_ofJson?) targetRead

/-- Every model that is read from a record is canonical. -/
theorem Model.canonical_of_ofJson? {value : Value} {model : Model}
    (reading : ofJson? value = some model) : model.Canonical := by
  simp only [ofJson?, Option.bind_eq_bind, Option.bind_eq_some_iff, Option.pure_def,
    Option.some.injEq] at reading
  obtain ⟨fields, -, kind, -, elements, -, relationships, relationshipsRead, rfl⟩ := reading
  obtain ⟨list, -, itemsRead⟩ := Option.bind_eq_some_iff.1 relationshipsRead
  obtain ⟨items, -, itemsRead⟩ := Option.bind_eq_some_iff.1 itemsRead
  intro relationship member
  obtain ⟨item, -, itemRead⟩ := mem_of_readItems itemsRead member
  exact Relationship.canonical_of_ofJson? itemRead

/-! ## Models from sources -/

/-- A relationship without cardinalities is canonical. -/
theorem Relationship.canonical_of_none {relationship : Relationship}
    (source : relationship.sourceCardinality = none)
    (target : relationship.targetCardinality = none) : relationship.Canonical := by
  simp [Relationship.Canonical, source, target]

theorem ClassLine.canonical_of_relationship? {line : List Char} {relationship : Relationship}
    (reading : relationship? line = some relationship) : relationship.Canonical := by
  obtain ⟨parts, -, rfl⟩ := Option.map_eq_some_iff.1 reading
  constructor
  · intro cardinality member
    obtain ⟨text, -, rfl⟩ := Option.map_eq_some_iff.1 member
    exact Cardinality.canonical_ofText _
  · intro cardinality member
    obtain ⟨text, -, rfl⟩ := Option.map_eq_some_iff.1 member
    exact Cardinality.canonical_ofText _

theorem CrowsFoot.canonical_cardinality (connector : List Char) (side : ConnectorEnd) :
    (cardinality connector side).Canonical := by
  have table : ∀ row ∈ markers, row.2 ∈ [Cardinality.one, .zeroOrOne, .zeroOrMany, .oneOrMany] := by
    decide
  have named : ∀ cardinality ∈ [Cardinality.one, .zeroOrOne, .zeroOrMany, .oneOrMany],
      cardinality.Canonical := by
    simp [Cardinality.Canonical]
  unfold cardinality
  split
  · next found => exact named _ (table _ (List.mem_of_find?_eq_some found))
  · simp [Cardinality.Canonical]

theorem EntityLine.canonical_of_relation? {line : List Char} {relationship : Relationship}
    (reading : relation? line = some relationship) : relationship.Canonical := by
  obtain ⟨suffix, -, reading⟩ := exists_suffix_of_firstAtWord reading
  simp only [relationAt?, Option.bind_eq_bind, Option.bind_eq_some_iff, Option.pure_def,
    Option.some.injEq] at reading
  obtain ⟨_, _, ⟨connector, _⟩, _, _, _, _, _, rfl⟩ := reading
  constructor
  · rintro cardinality ⟨⟩
    exact CrowsFoot.canonical_cardinality connector .left
  · rintro cardinality ⟨⟩
    exact CrowsFoot.canonical_cardinality connector .right

theorem SequenceLine.canonical_of_message? {line : List Char} {relationship : Relationship}
    (reading : message? line = some relationship) : relationship.Canonical := by
  obtain ⟨suffix, -, reading⟩ := exists_suffix_of_firstAtWord reading
  simp only [messageAt?, Option.bind_eq_bind, Option.bind_eq_some_iff, Option.pure_def,
    Option.some.injEq] at reading
  obtain ⟨_, _, _, _, _, _, rfl⟩ := reading
  exact Relationship.canonical_of_none rfl rfl

theorem UseCaseLine.canonical_of_link? {line : List Char} {relationship : Relationship}
    (reading : link? line = some relationship) : relationship.Canonical := by
  obtain ⟨suffix, -, reading⟩ := exists_suffix_of_firstAtWord reading
  simp only [linkAt?, Option.bind_eq_bind, Option.bind_eq_some_iff, Option.pure_def,
    Option.some.injEq] at reading
  obtain ⟨_, _, _, _, _, _, _, _, rfl⟩ := reading
  exact Relationship.canonical_of_none rfl rfl

/-- Of two readers that make different kinds of entries, the second one states
the relationship if the first one never does. -/
theorem relationship_of_orElse {first second : Option Entry} {relationship : Relationship}
    (other : first ≠ some (.relationship relationship))
    (reading : (first <|> second) = some (.relationship relationship)) :
    second = some (.relationship relationship) := by
  cases first with
  | none => exact reading
  | some entry => exact absurd reading other

theorem map_ne_relationship {α : Type} {make : α → Entry} {relationship : Relationship}
    (never : ∀ item, make item ≠ .relationship relationship) (read : Option α) :
    read.map make ≠ some (.relationship relationship) := by
  cases read with
  | none => nofun
  | some item =>
      intro same
      exact never item (Option.some.inj same)

/-- Every relationship that a line states is canonical, in diagrams of all
kinds. -/
theorem DiagramKind.canonical_of_entryOf? {kind : DiagramKind} {line : List Char}
    {relationship : Relationship}
    (reading : kind.entryOf? line = some (.relationship relationship)) :
    relationship.Canonical := by
  cases kind with
  | classes =>
      have reading := relationship_of_orElse (map_ne_relationship nofun _) reading
      cases stated : ClassLine.relationship? line with
      | some other =>
          rw [stated] at reading
          cases reading
          exact ClassLine.canonical_of_relationship? stated
      | none =>
          rw [stated] at reading
          change ClassLine.member? line = _ at reading
          have reading := relationship_of_orElse (map_ne_relationship nofun _) reading
          have reading := relationship_of_orElse (map_ne_relationship nofun _) reading
          exact absurd reading (map_ne_relationship nofun _)
  | sequence =>
      have reading := relationship_of_orElse (map_ne_relationship nofun _) reading
      obtain ⟨other, stated, same⟩ := Option.map_eq_some_iff.1 reading
      cases same
      exact SequenceLine.canonical_of_message? stated
  | useCase =>
      have reading := relationship_of_orElse (map_ne_relationship nofun _) reading
      obtain ⟨other, stated, same⟩ := Option.map_eq_some_iff.1 reading
      cases same
      exact UseCaseLine.canonical_of_link? stated
  | entityRelationship =>
      have reading := relationship_of_orElse (map_ne_relationship nofun _) reading
      cases stated : EntityLine.relation? line with
      | some other =>
          rw [stated] at reading
          cases reading
          exact EntityLine.canonical_of_relation? stated
      | none =>
          rw [stated] at reading
          exact absurd reading (map_ne_relationship nofun _)
  | object | activity | component | state | deployment | generic =>
      exact absurd reading (map_ne_relationship nofun _)

/-- Every model that is read from a source is canonical. -/
theorem Model.canonical_ofSource (kind : DiagramKind) (source : String) :
    (Model.ofSource kind source).Canonical := by
  intro relationship member
  rw [Model.ofSource, Model.ofEntries, Assembly.relationships_ofEntries] at member
  obtain ⟨entry, entryMember, stated⟩ := List.mem_filterMap.1 member
  obtain ⟨line, -, reading⟩ := List.mem_filterMap.1 entryMember
  cases entry with
  | relationship other =>
      cases stated
      exact DiagramKind.canonical_of_entryOf? reading
  | element | field | method | literal => cases stated

/-- A parsed model is that of the source under some kind. -/
theorem exists_ofSource_of_parse {source : String} {model : Model}
    (parsed : parse source = .ok model) : ∃ kind, model = Model.ofSource kind source := by
  cases detected : detect source with
  | error error =>
      rw [parse, detected] at parsed
      contradiction
  | ok kind =>
      rw [parse, detected] at parsed
      cases parsed
      exact ⟨kind, rfl⟩

theorem Model.canonical_of_parse {source : String} {model : Model}
    (parsed : parse source = .ok model) : model.Canonical := by
  obtain ⟨kind, rfl⟩ := exists_ofSource_of_parse parsed
  exact Model.canonical_ofSource kind source

end DiagramGraph
