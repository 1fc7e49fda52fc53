import DiagramGraph.Proofs.Entry.Rules
import DiagramGraph.Proofs.Text.Lines
import Mathlib.Data.List.Basic

/-!
# Declarations and the lines that follow them

The lines of a source fall into blocks: each declaration opens a block, which
goes on up to the next declaration. An element has the members that stand in its
block and no others, and lines in front of the first block belong to nothing.
Relationships stand apart from this; lines that state one, or that say nothing,
can be taken out without a change to any element.
-/

namespace DiagramGraph

open DiagramGraph.Text

/-! ## Blocks -/

namespace LineRules

/-- The lines up to the first declaration. -/
def beforeDeclaration (rules : LineRules) (lines : List (List Char)) : List (List Char) :=
  lines.takeWhile fun line => (rules.declaration? line).isNone

/-- What the lines declare, each declaration with the lines between it and the
next one. -/
def blocks (rules : LineRules) : List (List Char) → List (Element × List (List Char))
  | [] => []
  | line :: rest =>
      match rules.declaration? line with
      | some declared => (declared, rules.beforeDeclaration rest) :: rules.blocks rest
      | none => rules.blocks rest

/-- The lines that state no relationship. -/
def unrelated (rules : LineRules) (body : List (List Char)) : List (List Char) :=
  body.filter fun line => (rules.relationship? line).isNone

/-- The members that some lines give: each rule accepts its own, except from
lines that state a relationship. -/
def members (rules : LineRules) (body : List (List Char)) : Members :=
  { attributes := (rules.unrelated body).filterMap rules.attribute?
    methods := (rules.unrelated body).filterMap rules.method?
    literals := (rules.unrelated body).filterMap rules.literal? }

/-- The element of a block: what was declared, with the members of the block.
Literals are kept if it has a list of values. -/
def blockElement (rules : LineRules) (block : Element × List (List Char)) : Element :=
  { block.1 with
    attributes := (rules.members block.2).attributes
    methods := (rules.members block.2).methods
    values := block.1.values.map fun _ => (rules.members block.2).literals }

end LineRules

/-- An element without members, as it is declared. -/
structure Element.Bare (element : Element) : Prop where
  attributes : element.attributes = []
  methods : element.methods = []
  values : ∀ values ∈ element.values, values = []

namespace LineRules

variable {rules : LineRules}

/-- The element of a block is what was declared, with the members of the block. -/
theorem blockElement_eq {declared : Element} (bare : declared.Bare) (body : List (List Char)) :
    rules.blockElement (declared, body) = declared.addMembers (rules.members body) := by
  have values : declared.values.map (fun _ => (rules.members body).literals) =
      declared.values.map fun values => values ++ (rules.members body).literals :=
    Option.map_congr fun values member => by rw [bare.values values member, List.nil_append]
  rw [blockElement, Element.addMembers, bare.attributes, bare.methods, values]
  rfl

/-- Lines are assembled block by block. -/
theorem ofEntries_lines (exclusive : rules.Exclusive)
    (bare : ∀ line declared, rules.declaration? line = some declared → declared.Bare)
    (lines : List (List Char)) :
    Assembly.ofEntries (lines.filterMap rules.read?) =
      { pending := rules.members (rules.beforeDeclaration lines)
        elements := (rules.blocks lines).map rules.blockElement
        relationships :=
          (lines.filter fun line => (rules.declaration? line).isNone).filterMap
            rules.relationship? } := by
  induction lines with
  | nil => rfl
  | cons line lines ih =>
      cases read : rules.read? line with
      | none =>
          obtain ⟨undeclared, unstated, noAttribute, noMethod, noLiteral⟩ :=
            read?_eq_none_iff.1 read
          rw [List.filterMap_cons_none read, ih]
          simp [beforeDeclaration, blocks, members, unrelated, undeclared, unstated, noAttribute,
            noMethod, noLiteral]
      | some entry =>
          rw [List.filterMap_cons_some read, Assembly.ofEntries, ih]
          cases read?_eq_some_iff.1 read with
          | element declares =>
              rw [Assembly.push, ← blockElement_eq (bare line _ declares)]
              simp [beforeDeclaration, blocks, members, unrelated, declares]
          | relationship undeclared states =>
              simp [Assembly.push, beforeDeclaration, blocks, members, unrelated, undeclared,
                states]
          -- the rules for members exclude each other, so only one of the lists grows
          | field undeclared unstated gives =>
              obtain ⟨noMethod, noLiteral⟩ := exclusive.attributes line _ gives
              simp [Assembly.push, beforeDeclaration, blocks, members, unrelated, undeclared,
                unstated, gives, noMethod, noLiteral]
          | method undeclared unstated noAttribute gives =>
              have noLiteral := exclusive.methods line _ gives
              simp [Assembly.push, beforeDeclaration, blocks, members, unrelated, undeclared,
                unstated, noAttribute, gives, noLiteral]
          | literal undeclared unstated noAttribute noMethod gives =>
              simp [Assembly.push, beforeDeclaration, blocks, members, unrelated, undeclared,
                unstated, noAttribute, noMethod, gives]

end LineRules

/-! ## What the rules declare -/

theorem Declaration.bare_element (declaration : Declaration) (type : String) :
    (declaration.element type).Bare :=
  ⟨rfl, rfl, nofun⟩

theorem ClassLine.bare_of_declaration? {line : List Char} {declared : Element}
    (declares : declaration? line = some declared) : declared.Bare := by
  simp only [declaration?, Option.orElse_eq_some] at declares
  rcases declares with isClass | ⟨-, isInterface | ⟨-, isEnum⟩⟩
  · obtain ⟨⟨isAbstract, rest⟩, -, others⟩ := Option.bind_eq_some_iff.1 isClass
    obtain ⟨declaration, -, same⟩ := Option.bind_eq_some_iff.1 others
    cases same
    exact ⟨rfl, rfl, by rintro values ⟨⟩⟩
  · obtain ⟨declaration, -, rfl⟩ := Option.map_eq_some_iff.1 isInterface
    exact declaration.bare_element "Interface"
  · obtain ⟨declaration, -, rfl⟩ := Option.map_eq_some_iff.1 isEnum
    refine ⟨rfl, rfl, ?_⟩
    rintro values ⟨⟩
    rfl

/-- In diagrams of all kinds, elements are declared without members. -/
theorem DiagramKind.bare_of_declaration? {kind : DiagramKind} {line : List Char}
    {declared : Element} (declares : kind.rules.declaration? line = some declared) :
    declared.Bare := by
  cases kind with
  | classes => exact ClassLine.bare_of_declaration? declares
  | sequence =>
      obtain ⟨⟨type, declaration⟩, -, rfl⟩ := Option.map_eq_some_iff.1 declares
      exact declaration.bare_element type
  | useCase =>
      obtain ⟨⟨type, declaration⟩, -, rfl⟩ := Option.map_eq_some_iff.1 declares
      exact declaration.bare_element type
  | entityRelationship =>
      obtain ⟨declaration, -, rfl⟩ := Option.map_eq_some_iff.1 declares
      exact declaration.bare_element "Entity"
  | object | activity | component | state | deployment | generic =>
      obtain ⟨⟨word, rest⟩, -, others⟩ := Option.bind_eq_some_iff.1 declares
      obtain ⟨⟨name, rest⟩, -, same⟩ := Option.bind_eq_some_iff.1 others
      cases same
      exact ⟨rfl, rfl, nofun⟩

theorem Model.elements_ofSource (kind : DiagramKind) (source : String) :
    (Model.ofSource kind source).elements =
      (Assembly.ofEntries (entries kind source.toList)).elements :=
  rfl

theorem Model.relationships_ofSource (kind : DiagramKind) (source : String) :
    (Model.ofSource kind source).relationships =
      (Assembly.ofEntries (entries kind source.toList)).relationships :=
  rfl

/-- What a source is assembled to, in diagrams of all kinds. -/
theorem DiagramKind.ofEntries_entries (kind : DiagramKind) (source : String) :
    Assembly.ofEntries (entries kind source.toList) =
      { pending :=
          kind.rules.members (kind.rules.beforeDeclaration (contentLines source.toList))
        elements :=
          (kind.rules.blocks (contentLines source.toList)).map kind.rules.blockElement
        relationships :=
          ((contentLines source.toList).filter fun line =>
            (kind.rules.declaration? line).isNone).filterMap kind.rules.relationship? } := by
  have read : kind.entryOf? = kind.rules.read? := funext kind.entryOf?_eq_rules
  rw [entries, read]
  exact LineRules.ofEntries_lines kind.exclusive_rules (fun _ _ => bare_of_declaration?) _

/-- The elements of a source are made of its blocks. -/
theorem Model.elements_eq_blocks (kind : DiagramKind) (source : String) :
    (Model.ofSource kind source).elements =
      (kind.rules.blocks (contentLines source.toList)).map kind.rules.blockElement :=
  congrArg Assembly.elements (kind.ofEntries_entries source)

/-- The relationships of a source stand on lines that declare nothing. -/
theorem Model.relationships_eq_undeclared (kind : DiagramKind) (source : String) :
    (Model.ofSource kind source).relationships =
      ((contentLines source.toList).filter fun line =>
        (kind.rules.declaration? line).isNone).filterMap kind.rules.relationship? :=
  congrArg Assembly.relationships (kind.ofEntries_entries source)

/-! ## Members of an element -/

namespace DiagramKind

variable {kind : DiagramKind} {block : Element × List (List Char)} {line : List Char}

/-- An attribute on a line of a block goes to the element of the block. -/
theorem mem_attributes_of_entryOf? {field : Attribute} (member : line ∈ block.2)
    (read : kind.entryOf? line = some (.field field)) :
    field ∈ (kind.rules.blockElement block).attributes := by
  have reads : kind.rules.Reads line (.field field) := reads_of_entryOf? read
  cases reads with
  | field _ unrelated gives =>
      exact List.mem_filterMap.2
        ⟨line, List.mem_filter.2 ⟨member, Option.isNone_iff_eq_none.2 unrelated⟩, gives⟩

/-- A method on a line of a block goes to the element of the block. -/
theorem mem_methods_of_entryOf? {method : Method} (member : line ∈ block.2)
    (read : kind.entryOf? line = some (.method method)) :
    method ∈ (kind.rules.blockElement block).methods := by
  have reads : kind.rules.Reads line (.method method) := reads_of_entryOf? read
  cases reads with
  | method _ unrelated _ gives =>
      exact List.mem_filterMap.2
        ⟨line, List.mem_filter.2 ⟨member, Option.isNone_iff_eq_none.2 unrelated⟩, gives⟩

end DiagramKind

/-! ## Taking lines out -/

/-- The source with some of its lines taken out. -/
def keeping (keep : List Char → Bool) (source : String) : String :=
  String.ofList (joined ((lines source.toList).filter keep))

theorem contentLines_keeping (keep : List Char → Bool) (source : String) :
    contentLines (keeping keep source).toList =
      (((lines source.toList).filter keep).map trim).filter isContent := by
  have single : ∀ line ∈ (lines source.toList).filter keep, '\n' ∉ line := fun line member =>
    separator_notMem_of_mem_pieces '\n' source.toList line (List.mem_filter.1 member).1
  rw [keeping, String.toList_ofList]
  by_cases nothing : (lines source.toList).filter keep = []
  · rw [nothing]
    rfl
  · rw [contentLines, lines_joined nothing single]

/-- Entries of a certain sort stay the same if no line that makes one is taken
out. -/
theorem filter_entries_keeping {kind : DiagramKind} {keep : List Char → Bool} {source : String}
    {sort : Entry → Bool}
    (kept : ∀ line ∈ lines source.toList, isContent (trim line) = true →
      ∀ entry, kind.entryOf? (trim line) = some entry → sort entry = true → keep line = true) :
    (entries kind (keeping keep source).toList).filter sort =
      (entries kind source.toList).filter sort := by
  rw [entries, entries, contentLines_keeping, contentLines]
  simp only [List.filter_filterMap, List.filterMap_filter, List.filterMap_map]
  apply List.filterMap_congr
  intro line member
  cases taken : keep line with
  | true => rfl
  | false =>
      simp only [Bool.false_eq_true, if_false, Function.comp_apply]
      split
      · next content =>
          symm
          rw [Option.filter_none, Option.filter_eq_none_iff]
          intro entry read accepted
          have := kept line member content entry read accepted
          rw [taken] at this
          contradiction
      · rfl

/-- Whether an entry is a relationship. -/
def Entry.isRelationship : Entry → Bool
  | .relationship _ => true
  | _ => false

/-- Without the entries for relationships, all else is assembled as before. -/
theorem Assembly.ofEntries_filter (entries : List Entry) :
    ofEntries (entries.filter fun entry => !entry.isRelationship) =
      { ofEntries entries with relationships := [] } := by
  induction entries with
  | nil => rfl
  | cons entry entries ih =>
      cases entry with
      | relationship stated => exact ih
      | element declared | field field | method method | literal text =>
          rw [List.filter_cons_of_pos rfl, ofEntries, ih]
          rfl

/-- Relationships do not count for the elements. -/
theorem Assembly.elements_ofEntries_filter (entries : List Entry) :
    (ofEntries (entries.filter fun entry => !entry.isRelationship)).elements =
      (ofEntries entries).elements := by
  rw [ofEntries_filter]

/-- Only relationships count for the relationships. -/
theorem Assembly.relationships_ofEntries_filter (entries : List Entry) :
    (ofEntries (entries.filter Entry.isRelationship)).relationships =
      (ofEntries entries).relationships := by
  rw [relationships_ofEntries, relationships_ofEntries, List.filterMap_filter]
  apply List.filterMap_congr
  intro entry member
  cases entry <;> rfl

namespace LineRules

/-- A line that declares an element or gives a member. -/
def Shapes (rules : LineRules) (line : List Char) : Prop :=
  (rules.declaration? line).isSome ∨
    (rules.relationship? line).isNone ∧
      ((rules.attribute? line).isSome ∨ (rules.method? line).isSome ∨ (rules.literal? line).isSome)

/-- A line that states a relationship and declares nothing. -/
def Relates (rules : LineRules) (line : List Char) : Prop :=
  (rules.declaration? line).isNone ∧ (rules.relationship? line).isSome

instance (rules : LineRules) (line : List Char) : Decidable (rules.Shapes line) :=
  inferInstanceAs (Decidable (_ ∨ _ ∧ _))

instance (rules : LineRules) (line : List Char) : Decidable (rules.Relates line) :=
  inferInstanceAs (Decidable (_ ∧ _))

end LineRules

theorem LineRules.Reads.shapes {rules : LineRules} {line : List Char} {entry : Entry}
    (reads : rules.Reads line entry) (sort : (!entry.isRelationship) = true) :
    rules.Shapes line := by
  cases reads with
  | element declares => simp [Shapes, declares]
  | relationship => contradiction
  | field undeclared unrelated gives => simp [Shapes, unrelated, gives]
  | method undeclared unrelated noAttribute gives => simp [Shapes, unrelated, gives]
  | literal undeclared unrelated noAttribute noMethod gives => simp [Shapes, unrelated, gives]

theorem LineRules.Reads.relates {rules : LineRules} {line : List Char} {entry : Entry}
    (reads : rules.Reads line entry) (sort : entry.isRelationship = true) :
    rules.Relates line := by
  cases reads with
  | relationship undeclared states => simp [Relates, undeclared, states]
  | element | field | method | literal => contradiction

theorem Model.elements_keeping {kind : DiagramKind} {source : String} {keep : List Char → Bool}
    (kept : ∀ line ∈ lines source.toList,
      isContent (trim line) = true → kind.rules.Shapes (trim line) → keep line = true) :
    (Model.ofSource kind (keeping keep source)).elements =
      (Model.ofSource kind source).elements := by
  have same :
      (entries kind (keeping keep source).toList).filter (fun entry => !entry.isRelationship) =
        (entries kind source.toList).filter fun entry => !entry.isRelationship := by
    apply filter_entries_keeping
    intro line member content entry read sort
    exact kept line member content ((DiagramKind.reads_of_entryOf? read).shapes sort)
  have fewer := Assembly.elements_ofEntries_filter (entries kind (keeping keep source).toList)
  have all := Assembly.elements_ofEntries_filter (entries kind source.toList)
  rw [same] at fewer
  rw [elements_ofSource, elements_ofSource, ← fewer, all]

theorem Model.relationships_keeping {kind : DiagramKind} {source : String}
    {keep : List Char → Bool}
    (kept : ∀ line ∈ lines source.toList,
      isContent (trim line) = true → kind.rules.Relates (trim line) → keep line = true) :
    (Model.ofSource kind (keeping keep source)).relationships =
      (Model.ofSource kind source).relationships := by
  have same : (entries kind (keeping keep source).toList).filter Entry.isRelationship =
      (entries kind source.toList).filter Entry.isRelationship := by
    apply filter_entries_keeping
    intro line member content entry read sort
    exact kept line member content ((DiagramKind.reads_of_entryOf? read).relates sort)
  have fewer :=
    Assembly.relationships_ofEntries_filter (entries kind (keeping keep source).toList)
  have all := Assembly.relationships_ofEntries_filter (entries kind source.toList)
  rw [same] at fewer
  rw [relationships_ofSource, relationships_ofSource, ← fewer, all]

/-! ## The main statement -/

/-- How a source is read if its elements are made of blocks. The relationships
are those of the lines that declare nothing. Only an enumeration starts with a
list of values, so only an enumeration keeps literals. Lines can be taken out
without a change to the elements if none of them shapes an element, and without a
change to the relationships if none of them states one. -/
structure DiagramKind.ReadsBlocks (kind : DiagramKind) (source : String) : Prop where
  declarations : (kind.rules.blocks (contentLines source.toList)).map Prod.fst =
    (contentLines source.toList).filterMap kind.rules.declaration?
  elements : (Model.ofSource kind source).elements =
    (kind.rules.blocks (contentLines source.toList)).map kind.rules.blockElement
  enumerations : ∀ block ∈ kind.rules.blocks (contentLines source.toList),
    block.1.values = if block.1.type = "Enum" then some [] else none
  relationships : (Model.ofSource kind source).relationships =
    ((contentLines source.toList).filter fun line =>
      (kind.rules.declaration? line).isNone).filterMap kind.rules.relationship?
  elements_keeping : ∀ keep : List Char → Bool,
    (∀ line ∈ lines source.toList,
      isContent (trim line) = true → kind.rules.Shapes (trim line) → keep line = true) →
    (Model.ofSource kind (keeping keep source)).elements = (Model.ofSource kind source).elements
  relationships_keeping : ∀ keep : List Char → Bool,
    (∀ line ∈ lines source.toList,
      isContent (trim line) = true → kind.rules.Relates (trim line) → keep line = true) →
    (Model.ofSource kind (keeping keep source)).relationships =
      (Model.ofSource kind source).relationships

theorem LineRules.map_fst_blocks (rules : LineRules) (lines : List (List Char)) :
    (rules.blocks lines).map Prod.fst = lines.filterMap rules.declaration? := by
  induction lines with
  | nil => rfl
  | cons line lines ih =>
      cases declares : rules.declaration? line with
      | none => rw [blocks, declares, List.filterMap_cons_none declares, ih]
      | some declared =>
          rw [blocks, declares, List.filterMap_cons_some declares, List.map_cons, ih]

/-- A declaration by a class rule has a list of values if it is an enumeration. -/
theorem ClassLine.values_of_declaration? {line : List Char} {declared : Element}
    (declares : declaration? line = some declared) :
    declared.values = if declared.type = "Enum" then some [] else none := by
  simp only [declaration?, Option.orElse_eq_some] at declares
  rcases declares with isClass | ⟨-, isInterface | ⟨-, isEnum⟩⟩
  · obtain ⟨⟨isAbstract, rest⟩, -, others⟩ := Option.bind_eq_some_iff.1 isClass
    obtain ⟨declaration, -, same⟩ := Option.bind_eq_some_iff.1 others
    cases same
    rfl
  · obtain ⟨declaration, -, rfl⟩ := Option.map_eq_some_iff.1 isInterface
    rfl
  · obtain ⟨declaration, -, rfl⟩ := Option.map_eq_some_iff.1 isEnum
    rfl

theorem EntityLine.values_of_entity? {line : List Char} {declared : Element}
    (declares : entity? line = some declared) :
    declared.values = if declared.type = "Enum" then some [] else none := by
  obtain ⟨declaration, -, rfl⟩ := Option.map_eq_some_iff.1 declares
  rfl

theorem DiagramKind.readsBlocks {kind : DiagramKind} {source : String}
    (values : ∀ line declared, kind.rules.declaration? line = some declared →
      declared.values = if declared.type = "Enum" then some [] else none) :
    kind.ReadsBlocks source where
  declarations := kind.rules.map_fst_blocks _
  elements := Model.elements_eq_blocks kind source
  enumerations := by
    intro block member
    have declared : block.1 ∈ (kind.rules.blocks (contentLines source.toList)).map Prod.fst :=
      List.mem_map_of_mem member
    rw [LineRules.map_fst_blocks] at declared
    obtain ⟨line, -, declares⟩ := List.mem_filterMap.1 declared
    exact values line block.1 declares
  relationships := Model.relationships_eq_undeclared kind source
  elements_keeping := fun keep => Model.elements_keeping
  relationships_keeping := fun keep => Model.relationships_keeping

/-- In diagrams of classes and of entities, members go to the latest declaration
and nowhere else: the elements of a source are made of its blocks. -/
theorem members_follow_declarations (source : String) :
    DiagramKind.classes.ReadsBlocks source ∧ DiagramKind.entityRelationship.ReadsBlocks source :=
  ⟨DiagramKind.readsBlocks fun _ _ => ClassLine.values_of_declaration?,
    DiagramKind.readsBlocks fun _ _ => EntityLine.values_of_entity?⟩

/-- Members in front of all declarations, behind a relationship, and of the wrong
sort. -/
def librarySource : String :=
  "+lost: Int\nclass Book \x7b\n  +title: String\n  LOST\n\x7d\n" ++
    "enum State \x7b\n  IN,\n\x7d\nBook --> State : has\nOUT"

/-- Whether a line is neither a brace nor a relationship of the library. -/
def shapesLibrary (line : List Char) : Bool :=
  line != ['\x7d'] && line != "Book --> State : has".toList

theorem keeping_shapesLibrary :
    (∀ line ∈ lines librarySource.toList, isContent (trim line) = true →
        DiagramKind.classes.rules.Shapes (trim line) → shapesLibrary line = true) ∧
      (Model.ofSource .classes (keeping shapesLibrary librarySource)).elements =
        (Model.ofSource .classes librarySource).elements ∧
      (Model.ofSource .classes librarySource).elements =
        [ { type := "Class", name := "Book", isAbstract := some false
            attributes :=
              [ { name := "title", datatype := some "String"
                  visibility := some .publicAccess } ] },
          { type := "Enum", name := "State", values := some ["IN", "OUT"] } ] := by
  have kept : ∀ line ∈ lines librarySource.toList, isContent (trim line) = true →
      DiagramKind.classes.rules.Shapes (trim line) → shapesLibrary line = true := by
    decide +kernel
  have reads := (members_follow_declarations librarySource).1
  refine ⟨kept, reads.elements_keeping shapesLibrary kept, ?_⟩
  rw [reads.elements]
  decide +kernel

end DiagramGraph
