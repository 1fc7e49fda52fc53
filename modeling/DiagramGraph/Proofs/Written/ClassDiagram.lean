import DiagramGraph.Proofs.Written.ClassReading
import DiagramGraph.Proofs.Written.Source

/-!
# Class diagrams are read as they are written

A source that writes the items of a class diagram, in whatever layout, is
parsed as the model of the items. Members go to the declaration in front of
them, because every item starts with a declaration or is a relationship.
-/

namespace DiagramGraph.Written

open DiagramGraph.Text DiagramGraph.ClassLine

/-! ## Every line is a line of content -/

theorem tidy_marker (visibility : Visibility) : Tidy [visibility.marker] := by
  cases visibility <;> exact tidy_iff.2 (by decide)

theorem Field.isLine (field : Field) : IsLine field.text where
  tidy := by
    have head : Tidy ([field.visibility.marker] ++ field.name.text) :=
      (tidy_marker field.visibility).append field.name.tidy
    have type : Tidy (field.type.text ++ spaced (Field.defaultPieces field.default)) := by
      apply tidy_spaced field.type.tidy
      cases field.default with
      | none => exact List.forall_mem_nil _
      | some phrase =>
          simp only [Field.defaultPieces, List.forall_mem_cons]
          exact ⟨tidy_iff.2 (by decide), phrase.tidy, List.forall_mem_nil _⟩
    have joined := head.join type (single_colon field.colonApart)
    simpa [Field.text, spaced_cons] using joined
  content := by
    cases shape : field.visibility <;> simp [Field.text, shape, Visibility.marker, isContent]

namespace Operation

theorem tidy_headText (operation : Operation) :
    Tidy (headText operation.visibility operation.modifier operation.markerFirst ++
      operation.name.text) := by
  have marker := tidy_marker operation.visibility
  cases operation.modifier with
  | none => exact marker.append operation.name.tidy
  | some written =>
      have modifier : Tidy (modifierText written) := by
        cases written <;> exact tidy_iff.2 (by decide)
      have blank : '\n' ∉ [' '] := by decide
      cases operation.markerFirst with
      | true => simpa [headText] using (marker.append modifier).join operation.name.tidy blank
      | false => simpa [headText] using modifier.join (marker.append operation.name.tidy) blank

theorem single_parametersText (parameters : Option (Phrase [')'])) :
    '\n' ∉ parametersText parameters := by
  cases parameters with
  | none => exact List.not_mem_nil
  | some phrase => exact phrase.tidy.single

theorem isContent_headText (visibility : Visibility) (written : Option Modifier)
    (markerFirst : Bool) (rest : List Char) :
    isContent (headText visibility written markerFirst ++ rest) = true := by
  cases written with
  | none => cases visibility <;> rfl
  | some written =>
      cases markerFirst with
      | true => cases visibility <;> rfl
      | false => cases written <;> rfl

theorem isLine (operation : Operation) : IsLine operation.text where
  tidy := by
    have parameters : Tidy ('(' :: (parametersText operation.parameters ++ [')'])) :=
      tidy_enclosed (by decide) (by decide) (single_parametersText operation.parameters)
    have front := operation.tidy_headText.append parameters
    cases shape : operation.returnType with
    | none => simpa [text, shape, returnText] using front
    | some type =>
        have joined := front.join type.tidy (single_colon operation.colonApart)
        simpa [text, shape, returnText, spaced_cons] using joined
  content := isContent_headText _ _ _ _

end Operation

theorem Member.isLine (member : Member) : IsLine member.text := by
  cases member with
  | field line => exact line.isLine
  | operation line => exact line.isLine
  | literal word comma =>
      apply word.isLine_append
      cases comma with
      | true => exact word.tidy.append (tidy_iff.2 (by decide))
      | false => simpa using word.tidy

theorem Declared.isLine (declared : Declared) : IsLine declared.text := by
  have named : ∀ piece ∈ [declared.namedText], Tidy piece := by
    simpa using declared.tidy_namedText
  rw [text]
  cases declared.keyword with
  | classifier isAbstract stereotype =>
      cases isAbstract with
      | true =>
          apply abstractWord.isLine_append
          apply tidy_spaced abstractWord.tidy
          simpa using ⟨classWord.tidy, declared.tidy_namedText⟩
      | false => exact classWord.isLine_append (tidy_spaced classWord.tidy named)
  | interface => exact interfaceWord.isLine_append (tidy_spaced interfaceWord.tidy named)
  | enumeration => exact enumWord.isLine_append (tidy_spaced enumWord.tidy named)

namespace Link

theorem tidy_quotePieces (quote : Option Quote) : ∀ piece ∈ quotePieces quote, Tidy piece := by
  cases quote with
  | none => exact List.forall_mem_nil _
  | some quote => simpa [quotePieces] using quote.tidy

theorem isLine (link : Link) : IsLine link.text := by
  apply link.source.isLine_append
  apply tidy_spaced link.source.tidy
  simp only [List.forall_mem_append, List.forall_mem_cons]
  exact ⟨tidy_quotePieces _, link.glyph.tidy, tidy_quotePieces _, link.target.tidy,
    tidy_labelPieces _⟩

end Link

namespace ClassItem

theorem isLine (item : ClassItem) : ∀ text ∈ item.texts, IsLine text := by
  cases item with
  | element declared members =>
      simp only [texts, List.forall_mem_cons, List.forall_mem_map]
      exact ⟨declared.isLine, fun member _ => member.isLine⟩
  | link line => simpa [texts] using line.isLine

/-! ## The entries of the items -/

/-- The entries that the lines of an item make. -/
def entries : ClassItem → List Entry
  | element declared members => .element declared.meaning :: members.map Member.entry
  | link line => [.relationship line.meaning]

/-- Every line of an item makes its entry. -/
theorem filterMap_entryOf?_texts (item : ClassItem) :
    item.texts.filterMap entryOf? = item.entries := by
  cases item with
  | element declared members =>
      have head : entryOf? declared.text = some (.element declared.meaning) := by
        rw [entryOf?, declared.declaration?_text]
        rfl
      have each : entryOf? ∘ Member.text = some ∘ Member.entry := funext Member.entryOf?_text
      rw [texts, entries, List.filterMap_cons_some head, List.filterMap_map, each,
        List.filterMap_eq_map]
  | link line =>
      rw [texts, entries, List.filterMap_cons_some line.entryOf?_text]
      rfl

/-! ## Assembling the items -/

/-- Members in front of entries without pending members are what is pending. -/
theorem ofEntries_members (members : List Member) {entries : List Entry}
    (settled : (Assembly.ofEntries entries).pending = {}) :
    Assembly.ofEntries (members.map Member.entry ++ entries) =
      { Assembly.ofEntries entries with
        pending :=
          { attributes := members.filterMap Member.asAttribute?
            methods := members.filterMap Member.asMethod?
            literals := members.filterMap Member.asLiteral? } } := by
  induction members with
  | nil =>
      rw [List.map_nil, List.nil_append]
      exact congrArg (fun pending => { Assembly.ofEntries entries with pending }) settled
  | cons member members ih =>
      rw [List.map_cons, List.cons_append, Assembly.ofEntries, ih]
      cases member with
      | field line => rfl
      | operation line => rfl
      | literal word comma => rfl

/-- A declared element has no members of its own, and no literals unless it is an
enumeration. -/
theorem addMembers_meaning (declared : Declared) (members : Members) :
    declared.meaning.addMembers members =
      { declared.meaning with
        attributes := members.attributes
        methods := members.methods
        values := declared.keyword.literals.map fun _ => members.literals } := by
  have literals :
      (declared.keyword.literals.map fun values => values ++ members.literals) =
        declared.keyword.literals.map fun _ => members.literals := by
    cases declared.keyword with
    | classifier isAbstract stereotype => rfl
    | interface => rfl
    | enumeration => rfl
  simp [Element.addMembers, Declared.meaning, literals]

/-- The entries of items are assembled into the elements and relationships of
the items, and no member is left over. -/
theorem ofEntries_items (items : List ClassItem) :
    Assembly.ofEntries (items.flatMap entries) =
      { pending := {}
        elements := items.filterMap element?
        relationships := items.filterMap relationship? } := by
  induction items with
  | nil => rfl
  | cons item items ih =>
      rw [List.flatMap_cons]
      cases item with
      | element declared members =>
          have settled : (Assembly.ofEntries (items.flatMap entries)).pending = {} := by rw [ih]
          rw [entries, List.cons_append, Assembly.ofEntries, ofEntries_members members settled, ih,
            Assembly.push, addMembers_meaning]
          rfl
      | link line =>
          rw [entries, List.singleton_append, Assembly.ofEntries, ih]
          rfl

end ClassItem

/-! ## The main statement -/

theorem ignoresBraces_classes : IgnoresBraces .classes :=
  ⟨rfl, rfl⟩

/-- A source that writes the items of a class diagram on lines of their own,
behind a directive for class diagrams, is parsed as the model of the items. -/
theorem parse_classDiagram {items : List ClassItem} {lines : List (List Char)}
    (lays : Lays (items.flatMap ClassItem.texts) lines) :
    parse (source classWord lines) = .ok (ClassItem.model items) := by
  have telling : asciiLower classWord.text ≠ Detection.bareWord := by decide
  have kind : DiagramKind.ofDirective (String.ofList (asciiLower classWord.text)) = .classes := by
    decide
  have detected : detect (source classWord lines) = .ok .classes := by
    rw [detect_source lines telling, kind]
  have written : ∀ text ∈ items.flatMap ClassItem.texts, IsLine text := by
    intro text member
    obtain ⟨item, -, inside⟩ := List.mem_flatMap.1 member
    exact item.isLine text inside
  have entries : (items.flatMap ClassItem.texts).filterMap (DiagramKind.entryOf? .classes) =
      items.flatMap ClassItem.entries := by
    rw [List.filterMap_flatMap]
    exact congrArg items.flatMap (funext ClassItem.filterMap_entryOf?_texts)
  rw [parse_source detected ignoresBraces_classes lays written, entries, Model.ofEntries,
    ClassItem.ofEntries_items]
  rfl

/-! ## A small source -/

def bookWord : Word :=
  ⟨"Book".toList, by decide, List.all_eq_true.1 (by decide)⟩

def pageWord : Word :=
  ⟨"Page".toList, by decide, List.all_eq_true.1 (by decide)⟩

def openWord : Word :=
  ⟨"open".toList, by decide, List.all_eq_true.1 (by decide)⟩

def pageType : TypeText :=
  ⟨pageWord.text, by decide, List.all_eq_true.1 (by decide), some "A, B".toList, by decide, true⟩

def bookClass : Declared :=
  { keyword := .classifier false (some ⟨"a thing".toList, tidy_iff.2 (by decide), by simp⟩)
    name := .quoted ⟨"The Book".toList, by decide, by decide, by decide⟩
    aliasWord := some bookWord
    opened := true }

def bookPages : Field :=
  ⟨.privateAccess, pageWord, false, pageType, some ⟨"[ ]".toList, tidy_iff.2 (by decide), by simp⟩⟩

def bookOpen : Operation :=
  { visibility := .protectedAccess
    modifier := some .static
    markerFirst := false
    name := openWord
    parameters := some ⟨"at : int".toList, tidy_iff.2 (by decide), by simp⟩
    colonApart := true
    returnType := some pageType }

def bookLink : Link :=
  { source := bookWord
    ends := .source ⟨"0..1".toList, by decide, by decide, by decide⟩
    glyph := ⟨['o'], .dashes 1, ['>'], by simp [AdornedConnector.leftAdornments],
      by simp [AdornedConnector.rightAdornments]⟩
    target := pageWord
    label := some ⟨"holds".toList, tidy_iff.2 (by decide), by simp [Ends.reserved]⟩
    undeclaring := by decide }

/-- A book with its pages. -/
def bookItems : List ClassItem :=
  [.element bookClass [.field bookPages, .operation bookOpen], .link bookLink]

/-- The lines of the book, with its members indented and a closing brace. -/
def bookLines : List (List Char) :=
  [ bookClass.text,
    [' ', ' '] ++ (bookPages.text ++ []),
    [' ', ' '] ++ (bookOpen.text ++ ['\r']),
    ['\x7d'],
    bookLink.text ]

/-- The text of these lines. -/
def bookSource : String :=
  "@startclass\nclass \"The Book\" as Book <<a thing>> \x7b\n  -Page: Page<A, B>[] = [ ]\n" ++
    "  \x7bstatic\x7d #open(at : int) : Page<A, B>[]\r\n\x7d\nBook \"0..1\" o--> Page : holds"

theorem parse_bookSource :
    Lays (bookItems.flatMap ClassItem.texts) bookLines ∧ source classWord bookLines = bookSource ∧
      parse bookSource = .ok (ClassItem.model bookItems) := by
  have bare : IsIndent [] := ⟨by simp, by simp⟩
  have two : IsIndent [' ', ' '] := ⟨List.all_eq_true.1 (by decide), by decide⟩
  have ending : IsIndent ['\r'] := ⟨List.all_eq_true.1 (by decide), by decide⟩
  have lays : Lays (bookItems.flatMap ClassItem.texts) bookLines := by
    have link : Lays [bookLink.text] [bookLink.text] := lays_self [bookLink.text]
    have closed : Lays [bookLink.text] (([] ++ (['\x7d'] ++ [])) :: [bookLink.text]) :=
      .idle .closing bare bare link
    have members : Lays (bookPages.text :: bookOpen.text :: [bookLink.text]) _ :=
      .content two bare (.content two ending closed)
    have head : Lays _ (([] ++ (bookClass.text ++ [])) :: _) := .content bare bare members
    rw [List.nil_append, List.append_nil] at head
    exact head
  have shown : source classWord bookLines = bookSource := by decide +kernel
  refine ⟨lays, shown, ?_⟩
  rw [← shown]
  exact parse_classDiagram lays

end DiagramGraph.Written
