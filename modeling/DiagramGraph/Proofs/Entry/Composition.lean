import DiagramGraph.Proofs.Entry.Blocks
import Mathlib.Data.List.TakeWhile

/-!
# Sources one behind the other

Lines are read one at a time, so a source that goes on with the lines of another
one has the elements and relationships of both, in order. Only members reach
across: those in front of the first declaration of the second part belong to the
last element of the first part, if it has any.
-/

namespace DiagramGraph

open DiagramGraph.Text

/-! ## Assemblies one behind the other -/

/-- Members with further members behind them. -/
def Members.append (front back : Members) : Members :=
  { attributes := front.attributes ++ back.attributes
    methods := front.methods ++ back.methods
    literals := front.literals ++ back.literals }

/-- The elements, with further members for the last one. -/
def extendLast (members : Members) : List Element → List Element
  | [] => []
  | [last] => [last.addMembers members]
  | first :: second :: rest => first :: extendLast members (second :: rest)

theorem Element.addMembers_addMembers (element : Element) (front back : Members) :
    (element.addMembers front).addMembers back = element.addMembers (front.append back) := by
  simp [addMembers, Members.append, Function.comp_def]

/-- Without further members the elements stay as they are. -/
theorem extendLast_none (elements : List Element) : extendLast {} elements = elements := by
  fun_induction extendLast {} elements with
  | case1 => rfl
  | case2 last => rw [Element.addMembers_none]
  | case3 first second rest ih => rw [ih]

namespace Assembly

/-- What the end of a source contributes, if it is followed by a further part. -/
def append (front back : Assembly) : Assembly :=
  { pending := if front.elements = [] then front.pending.append back.pending else front.pending
    elements := extendLast back.pending front.elements ++ back.elements
    relationships := front.relationships ++ back.relationships }

/-- What follows does not change how an entry is put in front. -/
theorem push_append (entry : Entry) (front back : Assembly) :
    push entry (front.append back) = (push entry front).append back := by
  cases entry with
  | element declared =>
      obtain ⟨pending, elements, relationships⟩ := front
      cases elements with
      | nil => simp [push, append, extendLast, Element.addMembers_addMembers]
      | cons first rest => simp [push, append, extendLast]
  | relationship stated => rfl
  | field field =>
      by_cases empty : front.elements = [] <;> simp [push, append, empty, Members.append]
  | method method =>
      by_cases empty : front.elements = [] <;> simp [push, append, empty, Members.append]
  | literal text =>
      by_cases empty : front.elements = [] <;> simp [push, append, empty, Members.append]

/-- Entries one behind the other are assembled part by part. -/
theorem ofEntries_append (front back : List Entry) :
    ofEntries (front ++ back) = (ofEntries front).append (ofEntries back) := by
  induction front with
  | nil => simp [ofEntries, append, extendLast, Members.append]
  | cons entry front ih => rw [List.cons_append, ofEntries, ih, push_append, ofEntries]

end Assembly

/-! ## Members in front of all declarations -/

theorem LineRules.undeclared_of_mem_beforeDeclaration {rules : LineRules} {line : List Char}
    {lines : List (List Char)} (before : line ∈ rules.beforeDeclaration lines) :
    rules.declaration? line = none := by
  unfold beforeDeclaration at before
  have undeclared := List.mem_takeWhile_imp before
  exact Option.isNone_iff_eq_none.1 undeclared

/-- Lines that shape no element give no members. -/
theorem LineRules.members_eq_none {rules : LineRules} {body : List (List Char)}
    (shapeless : ∀ line ∈ body, ¬rules.Shapes line) : rules.members body = {} := by
  have none : ∀ line ∈ rules.unrelated body,
      rules.attribute? line = none ∧ rules.method? line = none ∧ rules.literal? line = none := by
    intro line member
    obtain ⟨inside, unrelated⟩ := List.mem_filter.1 member
    have shapeless := shapeless line inside
    simp only [Shapes, not_or, not_and, Option.not_isSome_iff_eq_none] at shapeless
    exact shapeless.2 unrelated
  simp only [members, Members.mk.injEq, List.filterMap_eq_nil_iff]
  exact ⟨fun line member => (none line member).1, fun line member => (none line member).2.1,
    fun line member => (none line member).2.2⟩

namespace DiagramKind

/-- The members in front of the first declaration of a source. -/
def leadingMembers (kind : DiagramKind) (source : String) : Members :=
  kind.rules.members (kind.rules.beforeDeclaration (contentLines source.toList))

/-- There is a declaration in front of all members of a source. -/
def OpensMembers (kind : DiagramKind) (source : String) : Prop :=
  ∀ line ∈ kind.rules.beforeDeclaration (contentLines source.toList), ¬kind.rules.Shapes line

instance (kind : DiagramKind) (source : String) : Decidable (kind.OpensMembers source) :=
  inferInstanceAs (Decidable (∀ _ ∈ _, _))

variable {kind : DiagramKind}

theorem leadingMembers_eq_none {source : String} (opens : kind.OpensMembers source) :
    kind.leadingMembers source = {} :=
  LineRules.members_eq_none opens

/-- Only diagrams of classes and of entities have members. -/
theorem opensMembers_of_memberless (noClasses : kind ≠ .classes)
    (noEntities : kind ≠ .entityRelationship) (source : String) : kind.OpensMembers source := by
  intro line before shapes
  have undeclared := LineRules.undeclared_of_mem_beforeDeclaration before
  cases kind with
  | classes => contradiction
  | entityRelationship => contradiction
  | sequence | useCase | object | activity | component | state | deployment | generic =>
      rcases shapes with declared | ⟨-, member⟩
      · rw [undeclared] at declared
        contradiction
      · simp [rules] at member

end DiagramKind

/-! ## The main statement -/

theorem entries_append (kind : DiagramKind) (front back : String) :
    entries kind (front ++ "\n" ++ back).toList =
      entries kind front.toList ++ entries kind back.toList := by
  have text : (front ++ "\n" ++ back).toList = front.toList ++ '\n' :: back.toList := by simp
  rw [entries, text, contentLines_append, List.filterMap_append]
  rfl

/-- A source that goes on with the lines of another one has the relationships of
both, and the elements of both except that members in front of the first
declaration of the second one go to the last element of the first one. If there
are none, and in diagrams without members, the elements stay as they are. -/
theorem ofSource_append (kind : DiagramKind) (front back : String) :
    (Model.ofSource kind (front ++ "\n" ++ back)).relationships =
        (Model.ofSource kind front).relationships ++ (Model.ofSource kind back).relationships ∧
      (Model.ofSource kind (front ++ "\n" ++ back)).elements =
        extendLast (kind.leadingMembers back) (Model.ofSource kind front).elements ++
          (Model.ofSource kind back).elements ∧
      ((kind = .classes ∨ kind = .entityRelationship → kind.OpensMembers back) →
        (Model.ofSource kind (front ++ "\n" ++ back)).elements =
          (Model.ofSource kind front).elements ++ (Model.ofSource kind back).elements) := by
  have assembled : Assembly.ofEntries (entries kind (front ++ "\n" ++ back).toList) =
      (Assembly.ofEntries (entries kind front.toList)).append
        (Assembly.ofEntries (entries kind back.toList)) := by
    rw [entries_append, Assembly.ofEntries_append]
  have elements : (Model.ofSource kind (front ++ "\n" ++ back)).elements =
      extendLast (kind.leadingMembers back) (Model.ofSource kind front).elements ++
        (Model.ofSource kind back).elements := by
    have pending : (Assembly.ofEntries (entries kind back.toList)).pending =
        kind.leadingMembers back := congrArg Assembly.pending (kind.ofEntries_entries back)
    rw [← pending]
    exact congrArg Assembly.elements assembled
  refine ⟨congrArg Assembly.relationships assembled, elements, fun opens => ?_⟩
  have opened : kind.OpensMembers back := by
    by_cases classes : kind = .classes
    · exact opens (.inl classes)
    by_cases entities : kind = .entityRelationship
    · exact opens (.inr entities)
    exact DiagramKind.opensMembers_of_memberless classes entities back
  rw [elements, DiagramKind.leadingMembers_eq_none opened, extendLast_none]

/-- A class with an attribute. -/
def shopSource : String :=
  "@startclass\nclass Shop \x7b\n  +address: String\n\x7d"

/-- A relationship and a further class, with a method. -/
def stockSource : String :=
  "Shop --> Stock : keeps\r\nclass Stock \x7b\n  +count(): Int\n\x7d\n@endclass"

theorem ofSource_shopSource_append_stockSource :
    DiagramKind.classes.OpensMembers stockSource ∧
      (Model.ofSource .classes (shopSource ++ "\n" ++ stockSource)).elements =
        (Model.ofSource .classes shopSource).elements ++
          (Model.ofSource .classes stockSource).elements := by
  have opens : DiagramKind.classes.OpensMembers stockSource := by
    unfold DiagramKind.OpensMembers
    decide +kernel
  exact ⟨opens, (ofSource_append .classes shopSource stockSource).2.2 fun _ => opens⟩

/-- A member in front of all declarations goes back to the last element of what
stands before. -/
example :
    (Model.ofSource .classes ("class A\nclass B" ++ "\n" ++ "+x: Int\nenum C\nRED")).elements =
      [ { type := "Class", name := "A", isAbstract := some false },
        { type := "Class", name := "B", isAbstract := some false
          attributes :=
            [ { name := "x", datatype := some "Int", visibility := some .publicAccess } ] },
        { type := "Enum", name := "C", values := some ["RED"] } ] := by
  decide +kernel

end DiagramGraph
