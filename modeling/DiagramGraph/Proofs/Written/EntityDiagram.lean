import DiagramGraph.Proofs.Written.EntityReading
import DiagramGraph.Proofs.Written.Source

/-!
# Entity diagrams are read as they are written

A source that writes the items of an entity diagram, in whatever layout, is
parsed as the model of the items. Columns go to the entity in front of them,
because every item starts with an entity or is a relation.
-/

namespace DiagramGraph.Written

open DiagramGraph.Text DiagramGraph.EntityLine

/-! ## Every line is a line of content -/

theorem DeclaredEntity.isLine (declared : DeclaredEntity) : IsLine declared.text := by
  apply entityWord.isLine_append
  have blank : '\n' ∉ [' '] := by decide
  exact entityWord.tidy.join declared.tidy_namedText blank

theorem Relation.isLine (relation : Relation) : IsLine relation.text := by
  apply relation.source.isLine_append
  apply tidy_spaced relation.source.tidy
  simp only [List.forall_mem_cons]
  exact ⟨relation.foot.tidy, relation.target.tidy, Link.tidy_labelPieces _⟩

namespace Column

theorem tidy_unstarred (column : Column) :
    Tidy (column.name.text ++
      (colon column.colonApart ++ (' ' :: (column.type.text ++ column.braces.text)))) := by
  have joined := column.name.tidy.join (column.braces.tidy_append column.type.tidy)
    (single_colon column.colonApart)
  rwa [List.append_assoc] at joined

theorem isLine (column : Column) : IsLine column.text := by
  have unstarred := column.tidy_unstarred
  have star : Tidy ['*'] := tidy_iff.2 (by decide)
  have blank : '\n' ∉ [' '] := by decide
  rw [text]
  cases column.mandatory with
  | false => exact column.name.isLine_append unstarred
  | true =>
      cases column.starApart with
      | true => exact ⟨star.join unstarred blank, rfl⟩
      | false => exact ⟨star.append unstarred, rfl⟩

end Column

namespace EntityItem

theorem isLine (item : EntityItem) : ∀ text ∈ item.texts, IsLine text := by
  cases item with
  | entity declared columns =>
      simp only [texts, List.forall_mem_cons, List.forall_mem_map]
      exact ⟨declared.isLine, fun column _ => column.isLine⟩
  | relation line => simpa [texts] using line.isLine

/-! ## The entries of the items -/

/-- The entries that the lines of an item make. -/
def entries : EntityItem → List Entry
  | entity declared columns =>
      .element declared.meaning :: columns.map fun column => .field column.meaning
  | relation line => [.relationship line.meaning]

/-- Every line of an item makes its entry. -/
theorem filterMap_entryOf?_texts (item : EntityItem) :
    item.texts.filterMap entryOf? = item.entries := by
  cases item with
  | entity declared columns =>
      have each : entryOf? ∘ Column.text = fun column => some (.field column.meaning) :=
        funext Column.entryOf?_text
      rw [texts, entries, List.filterMap_cons_some declared.entryOf?_text, List.filterMap_map, each,
        List.filterMap_eq_map']
  | relation line =>
      rw [texts, entries, List.filterMap_cons_some line.entryOf?_text]
      rfl

/-! ## Assembling the items -/

/-- Columns in front of entries without pending members are what is pending. -/
theorem ofEntries_columns (columns : List Column) {entries : List Entry}
    (settled : (Assembly.ofEntries entries).pending = {}) :
    Assembly.ofEntries ((columns.map fun column => .field column.meaning) ++ entries) =
      { Assembly.ofEntries entries with
        pending := { attributes := columns.map Column.meaning } } := by
  induction columns with
  | nil =>
      rw [List.map_nil, List.nil_append]
      exact congrArg (fun pending => { Assembly.ofEntries entries with pending }) settled
  | cons column columns ih =>
      rw [List.map_cons, List.cons_append, Assembly.ofEntries, ih]
      rfl

/-- The entries of items are assembled into the entities and relations of the
items, and no column is left over. -/
theorem ofEntries_items (items : List EntityItem) :
    Assembly.ofEntries (items.flatMap entries) =
      { pending := {}
        elements := items.filterMap element?
        relationships := items.filterMap relationship? } := by
  induction items with
  | nil => rfl
  | cons item items ih =>
      rw [List.flatMap_cons]
      cases item with
      | entity declared columns =>
          have settled : (Assembly.ofEntries (items.flatMap entries)).pending = {} := by rw [ih]
          rw [entries, List.cons_append, Assembly.ofEntries, ofEntries_columns columns settled, ih]
          rfl
      | relation line =>
          rw [entries, List.singleton_append, Assembly.ofEntries, ih]
          rfl

end EntityItem

/-! ## The main statement -/

theorem ignoresBraces_entityRelationship : IgnoresBraces .entityRelationship :=
  ⟨rfl, rfl⟩

/-- A source that writes the items of an entity diagram on lines of their own,
behind a directive for entity diagrams, is parsed as the model of the items. -/
theorem parse_entityDiagram {items : List EntityItem} {lines : List (List Char)}
    (lays : Lays (items.flatMap EntityItem.texts) lines) :
    parse (source entityWord lines) = .ok (EntityItem.model items) := by
  have telling : asciiLower entityWord.text ≠ Detection.bareWord := by decide
  have kind : DiagramKind.ofDirective (String.ofList (asciiLower entityWord.text)) =
      .entityRelationship := by
    decide
  have detected : detect (source entityWord lines) = .ok .entityRelationship := by
    rw [detect_source lines telling, kind]
  rw [parse_items detected ignoresBraces_entityRelationship EntityItem.isLine
    EntityItem.filterMap_entryOf?_texts lays, Model.ofEntries, EntityItem.ofEntries_items]
  rfl

/-! ## A small source -/

def itemWord : Word :=
  ⟨"Item".toList, by decide, List.all_eq_true.1 (by decide)⟩

def orderWord : Word :=
  ⟨"Order".toList, by decide, List.all_eq_true.1 (by decide)⟩

def priceWord : Word :=
  ⟨"price".toList, by decide, List.all_eq_true.1 (by decide)⟩

/-- No braces. -/
def unbraced : Braces :=
  ⟨[], by simp, by simp, by simp⟩

/-- An opening brace, set apart. -/
def openingBrace : Braces :=
  { text := [' ', '\x7b']
    braces := List.all_iff_forall_prop.1 (by decide)
    single := by decide
    finish := by
      rintro last ⟨⟩
      decide }

def itemEntity : DeclaredEntity :=
  { name := .quoted ⟨"Line Item".toList, by decide, by decide, by decide⟩
    aliasWord := some itemWord
    braces := openingBrace }

def itemPrice : Column :=
  { mandatory := true
    starApart := true
    name := priceWord
    colonApart := false
    type :=
      { path := "sql.decimal".toList
        nonempty := by decide
        dotted := List.all_eq_true.1 (by decide)
        arguments := some "10, 2".toList
        plain := by decide
        shaftless := fun inner same => by
          cases same
          exact not_containsShaft (by decide) (by decide) }
    braces := unbraced }

def itemOrder : Relation :=
  { source := itemWord
    foot := ⟨some .oneOrMany, true, some (.zeroOrOne true)⟩
    target := orderWord
    label := some ⟨"part of".toList, tidy_iff.2 (by decide), by simp⟩
    undeclaring := by decide }

/-- An item with its price, and the order that it is part of. -/
def itemItems : List EntityItem :=
  [ .entity itemEntity [itemPrice],
    .relation itemOrder,
    .entity ⟨.bare orderWord, none, unbraced⟩ [] ]

/-- The lines of the item, with its column indented and a closing brace. -/
def itemLines : List (List Char) :=
  [ itemEntity.text,
    [' ', ' '] ++ (itemPrice.text ++ ['\r']),
    ['\x7d'],
    itemOrder.text,
    "entity Order".toList ]

/-- The text of these lines. -/
def itemSource : String :=
  "@startentity\nentity \"Line Item\" as Item \x7b\n  * price: sql.decimal(10, 2)\r\n\x7d\n" ++
    "Item \x7d|..|o Order : part of\nentity Order"

theorem parse_itemSource :
    Lays (itemItems.flatMap EntityItem.texts) itemLines ∧
      source entityWord itemLines = itemSource ∧
      parse itemSource = .ok (EntityItem.model itemItems) := by
  have bare : IsIndent [] := ⟨by simp, by simp⟩
  have two : IsIndent [' ', ' '] := ⟨List.all_eq_true.1 (by decide), by decide⟩
  have ending : IsIndent ['\r'] := ⟨List.all_eq_true.1 (by decide), by decide⟩
  have lays : Lays (itemItems.flatMap EntityItem.texts) itemLines := by
    have others : Lays [itemOrder.text, "entity Order".toList] _ := lays_self _
    have closed : Lays _ (([] ++ (['\x7d'] ++ [])) :: [itemOrder.text, "entity Order".toList]) :=
      .idle .closing bare bare others
    have columns : Lays (itemPrice.text :: [itemOrder.text, "entity Order".toList]) _ :=
      .content two ending closed
    have head : Lays _ (([] ++ (itemEntity.text ++ [])) :: _) := .content bare bare columns
    rw [List.nil_append, List.append_nil] at head
    exact head
  have shown : source entityWord itemLines = itemSource := by decide +kernel
  refine ⟨lays, shown, ?_⟩
  rw [← shown]
  exact parse_entityDiagram lays

end DiagramGraph.Written
