import DiagramGraph.Proofs.Entry.Composition
import DiagramGraph.Proofs.Pattern.Connection
import DiagramGraph.Proofs.Pattern.Declaration
import DiagramGraph.Proofs.Pattern.Directive
import DiagramGraph.Proofs.Pattern.Member

/-!
# Extraction by index

A model is extracted line by line. The rules of a kind find their patterns in a line and
read groups by number, and a member goes to the element at the index that a cursor
holds. Every such access is checked here, and none of them ever fails: the groups take
part in all captures, and the cursor holds the index of the last element whenever there
are elements at all. What is extracted is the model of the source.
-/

namespace DiagramGraph

open DiagramGraph.Text

/-! ## The rules of each kind -/

/-- The rules for the lines of a diagram of the given kind, in the order in which they
are tried. -/
def DiagramKind.patternRules : DiagramKind → List (Rule Entry)
  | .classes =>
      classDeclarationRules.map (fun rule => rule.map Entry.element) ++
        [ relationshipRule.map Entry.relationship,
          attributeRule.map Entry.field,
          methodRule.map Entry.method,
          literalRule.map Entry.literal ]
  | .sequence =>
      [ participantRule.map Entry.element,
        messageRule.map Entry.relationship ]
  | .useCase =>
      (declarationRules UseCaseLine.keywords).map (fun rule => rule.map Entry.element) ++
        [linkRule.map Entry.relationship]
  | .entityRelationship =>
      entityDeclarationRules.map (fun rule => rule.map Entry.element) ++
        [ relationRule.map Entry.relationship,
          entityAttributeRule.map Entry.field ]
  | .object | .activity | .component | .state | .deployment | .generic =>
      [pairRule.map Entry.element]

theorem agree_memberRules :
    AgreeInOrder
      [attributeRule.map Entry.field, methodRule.map Entry.method, literalRule.map Entry.literal]
      ClassLine.member? := by
  have agree := agreeInOrder_cons (agrees_attributeRule.map Entry.field)
    (agreeInOrder_cons (agrees_methodRule.map Entry.method)
      (agreeInOrder_singleton (agrees_literalRule.map Entry.literal)))
  intro line single
  rw [agree line single, ClassLine.member?]
  dsimp only
  rw [Option.map_map]
  rfl

/-- The rules of a kind make of a line the entry that the line makes. -/
theorem agree_patternRules (kind : DiagramKind) : AgreeInOrder kind.patternRules kind.entryOf? := by
  cases kind with
  | classes =>
      exact agreeInOrder_append (agree_classDeclarationRules.map Entry.element)
        (agreeInOrder_cons (agrees_relationshipRule.map Entry.relationship) agree_memberRules)
  | sequence =>
      exact agreeInOrder_cons (agrees_participantRule.map Entry.element)
        (agreeInOrder_singleton (agrees_messageRule.map Entry.relationship))
  | useCase =>
      exact agreeInOrder_append (agree_useCaseDeclarations.map Entry.element)
        (agreeInOrder_singleton (agrees_linkRule.map Entry.relationship))
  | entityRelationship =>
      exact agreeInOrder_append (agree_entityDeclarationRules.map Entry.element)
        (agreeInOrder_cons (agrees_relationRule.map Entry.relationship)
          (agreeInOrder_singleton (agrees_entityAttributeRule.map Entry.field)))
  | object | activity | component | state | deployment | generic =>
      exact agreeInOrder_singleton (agrees_pairRule.map Entry.element)

namespace Indexed

/-! ## Lines -/

/-- What has been read of a source: elements, relationships, and the index of the
element to which members belong. -/
structure Progress where
  elements : List Element := []
  relationships : List Relationship := []
  cursor : Option Nat := none
  deriving DecidableEq, Repr

/-- The element at an index, which has to be there. -/
def elementAt (elements : List Element) (index : Nat) : Except Fault Element :=
  match elements[index]? with
  | some element => .ok element
  | none => .error (.element index)

namespace Progress

/-- Members go to the element under the cursor. Without one they are dropped. -/
def attach (progress : Progress) (members : Members) : Except Fault Progress :=
  match progress.cursor with
  | none => .ok progress
  | some index => do
      let element ← elementAt progress.elements index
      return { progress with
        elements := progress.elements.set index (element.addMembers members) }

/-- One more entry has been read. -/
def push (progress : Progress) : Entry → Except Fault Progress
  | .element element =>
      .ok { progress with
        elements := progress.elements ++ [element]
        cursor := some progress.elements.length }
  | .relationship relationship =>
      .ok { progress with relationships := progress.relationships ++ [relationship] }
  | .field field => progress.attach { attributes := [field] }
  | .method method => progress.attach { methods := [method] }
  | .literal text => progress.attach { literals := [text] }

end Progress

/-- One more line has been read. A line without entry is dropped. -/
def step (kind : DiagramKind) (progress : Progress) (line : List Char) : Except Fault Progress := do
  match ← readFirst kind.patternRules line with
  | some entry => progress.push entry
  | none => return progress

/-- All lines have been read. -/
def readLines (kind : DiagramKind) (lines : List (List Char)) : Except Fault Progress :=
  lines.foldlM (step kind) {}

/-- The model of a source that is read as a diagram of the given kind. -/
def extract (kind : DiagramKind) (source : String) : Except Fault Model := do
  let progress ← readLines kind (contentLines source.toList)
  return { kind, elements := progress.elements, relationships := progress.relationships }

/-- The model of a source. -/
def parse (source : String) : Except Fault (Except SourceError Model) := do
  match ← detect source with
  | .ok kind => return .ok (← extract kind source)
  | .error error => return .error error

/-! ## The cursor -/

/-- The index of the last of some elements, if there are any. -/
def lastIndex? : Nat → Option Nat
  | 0 => none
  | before + 1 => some before

theorem lastIndex?_eq_none_iff {count : Nat} : lastIndex? count = none ↔ count = 0 := by
  cases count <;> simp [lastIndex?]

theorem lastIndex?_eq_some_iff {count index : Nat} :
    lastIndex? count = some index ↔ index + 1 = count := by
  cases count <;> simp [lastIndex?, eq_comm]

/-- What has been read after some entries: the cursor is at the last element. -/
def Progress.after (entries : List Entry) : Progress :=
  { elements := (Assembly.ofEntries entries).elements
    relationships := (Assembly.ofEntries entries).relationships
    cursor := lastIndex? (Assembly.ofEntries entries).elements.length }

/-- The members that belong to the last element reach it. -/
theorem extendLast_append_singleton (members : Members) (front : List Element) (last : Element) :
    extendLast members (front ++ [last]) = front ++ [last.addMembers members] := by
  induction front with
  | nil => rfl
  | cons first front ih =>
      cases front with
      | nil => rfl
      | cons second front =>
          rw [List.cons_append, List.cons_append, extendLast, ← List.cons_append, ih]
          rfl

theorem length_extendLast (members : Members) (elements : List Element) :
    (extendLast members elements).length = elements.length := by
  rcases List.eq_nil_or_concat elements with rfl | ⟨front, last, rfl⟩
  · rfl
  · rw [List.concat_eq_append, extendLast_append_singleton]
    simp

/-- The last element is found under the cursor, so members can be attached. -/
theorem Progress.attach_eq {progress : Progress}
    (cursor : progress.cursor = lastIndex? progress.elements.length) (members : Members) :
    progress.attach members =
      .ok { progress with elements := extendLast members progress.elements } := by
  obtain ⟨elements, relationships, index⟩ := progress
  dsimp only at cursor
  rcases List.eq_nil_or_concat elements with rfl | ⟨front, last, rfl⟩
  · subst cursor
    rfl
  · rw [List.concat_eq_append] at cursor ⊢
    have atLast : index = some front.length := by
      rw [cursor, List.length_append]
      rfl
    have found : elementAt (front ++ [last]) front.length = .ok last := by simp [elementAt]
    rw [extendLast_append_singleton, attach, atLast]
    dsimp only
    rw [found]
    simp

/-- A member that is attached belongs to the last element. -/
theorem Progress.attach_after (entries : List Entry) {entry : Entry} {members : Members}
    (alone : Assembly.ofEntries [entry] = { pending := members }) :
    (after entries).attach members = .ok (after (entries ++ [entry])) := by
  rw [attach_eq rfl, after, after, Assembly.ofEntries_append, alone]
  simp [Assembly.append, length_extendLast]

/-- What is read after some entries goes on with one more entry. -/
theorem Progress.push_after (entries : List Entry) (entry : Entry) :
    (after entries).push entry = .ok (after (entries ++ [entry])) := by
  cases entry with
  | element element =>
      have alone : Assembly.ofEntries [.element element] = { elements := [element] } := by
        simp [Assembly.ofEntries, Assembly.push, Element.addMembers_none]
      rw [push, after, after, Assembly.ofEntries_append, alone]
      simp [Assembly.append, extendLast_none, lastIndex?]
  | relationship relationship =>
      have alone : Assembly.ofEntries [.relationship relationship] =
          { relationships := [relationship] } := rfl
      rw [push, after, after, Assembly.ofEntries_append, alone]
      simp [Assembly.append, extendLast_none]
  | field field => exact attach_after entries rfl
  | method method => exact attach_after entries rfl
  | literal text => exact attach_after entries rfl

/-! ## All lines -/

/-- A line is read without fail, and contributes the entry that it makes. -/
theorem step_after (kind : DiagramKind) (entries : List Entry) {line : List Char}
    (single : '\n' ∉ line) :
    step kind (.after entries) line = .ok (.after (entries ++ (kind.entryOf? line).toList)) := by
  rw [step, agree_patternRules kind line single]
  cases kind.entryOf? line with
  | none =>
      rw [Option.toList_none, List.append_nil]
      rfl
  | some entry => exact Progress.push_after entries entry

/-- Lines are read without fail, whatever has been read before. The induction is on the
lines with any entries in front of them, since the cursor depends on these alone. -/
theorem foldlM_step (kind : DiagramKind) (entries : List Entry) {lines : List (List Char)}
    (single : ∀ line ∈ lines, '\n' ∉ line) :
    lines.foldlM (step kind) (.after entries) =
      .ok (.after (entries ++ lines.filterMap kind.entryOf?)) := by
  induction lines generalizing entries with
  | nil =>
      rw [List.filterMap_nil, List.append_nil]
      rfl
  | cons line lines ih =>
      obtain ⟨here, later⟩ := List.forall_mem_cons.1 single
      have further : lines.foldlM (step kind) (.after (entries ++ (kind.entryOf? line).toList)) =
          .ok (.after (entries ++ (kind.entryOf? line).toList ++ lines.filterMap kind.entryOf?)) :=
        ih _ later
      have inTurn : (line :: lines).filterMap kind.entryOf? =
          (kind.entryOf? line).toList ++ lines.filterMap kind.entryOf? := by
        cases made : kind.entryOf? line <;> simp [made]
      rw [List.foldlM_cons, step_after kind entries here, inTurn, ← List.append_assoc, ← further]
      rfl

theorem readLines_eq (kind : DiagramKind) {lines : List (List Char)}
    (single : ∀ line ∈ lines, '\n' ∉ line) :
    readLines kind lines = .ok (.after (lines.filterMap kind.entryOf?)) :=
  foldlM_step kind [] single

/-- What is extracted by index is the model of the source. -/
theorem extract_eq (kind : DiagramKind) (source : String) :
    extract kind source = .ok (Model.ofSource kind source) := by
  rw [extract, readLines_eq kind fun line member => single_of_mem_contentLines member]
  rfl

/-- What is read of a source is what it is parsed to. -/
theorem parse_eq (source : String) : parse source = .ok (DiagramGraph.parse source) := by
  rw [parse, detect_eq, DiagramGraph.parse]
  cases DiagramGraph.detect source with
  | error error => rfl
  | ok kind =>
      have extracted := extract_eq kind source
      simp only [bind, Except.bind, extracted]
      rfl

/-! ## The main statement -/

/-- Nothing fails while the kind of a source is detected and its lines are read as those
of a diagram of the given kind. -/
structure Safe (kind : DiagramKind) (source : String) : Prop where
  /-- The group of the word takes part in every directive. -/
  directives : ∀ captures ∈ Pattern.directive.all 0 source.toList, captures.Sets [1]
  /-- The groups that a rule reads take part in whatever it finds in a line. -/
  groups : ∀ rule ∈ kind.patternRules, ∀ line captures,
    rule.find? line = some captures → captures.Sets rule.needed
  /-- No line whatever makes the rules fail. -/
  rules : ∀ line, ∃ made, readFirst kind.patternRules line = .ok made
  /-- The group of the text takes part in every quoted text of a line. -/
  quoted : ∀ line, ∀ captures ∈ Pattern.quotedText.all 0 line, captures.Sets [1]
  /-- The characters at the right end of a connector begin inside of it. -/
  windows : ∀ connector side, windowAt connector side = .ok (CrowsFoot.window connector side)
  /-- Whenever a part of the lines has been read, the cursor is at the last element, and
  there is a cursor if there is an element. -/
  cursor : ∀ front back, contentLines source.toList = front ++ back →
    ∃ progress, readLines kind front = .ok progress ∧
      (progress.cursor = none ↔ progress.elements = []) ∧
      ∀ index ∈ progress.cursor, index + 1 = progress.elements.length
  /-- A kind is detected, or the source has no directive. -/
  detection : detect source = .ok (DiagramGraph.detect source)
  /-- The model of the source is extracted. -/
  extraction : extract kind source = .ok (Model.ofSource kind source)
  /-- The source is parsed to a model, or refused because it has no directive. -/
  parsing : (∃ model, parse source = .ok (.ok model)) ∨
    parse source = .ok (.error .missingDirective)

/-- Every source can be read as a diagram of every kind without a failing access. -/
theorem extraction_never_fails (kind : DiagramKind) (source : String) : Safe kind source where
  directives := fun _ found => Pattern.sets_of_mem_all (by decide) found
  groups := fun _ _ _ _ found => Rule.sets_of_find? found
  rules := exists_readFirst kind.patternRules
  quoted := fun _ _ found => Pattern.sets_of_mem_all (by decide) found
  windows := windowAt_eq
  cursor := by
    intro front back split
    have single : ∀ line ∈ front, '\n' ∉ line := by
      intro line member
      have inside : line ∈ contentLines source.toList := by
        rw [split]
        exact List.mem_append_left back member
      exact single_of_mem_contentLines inside
    refine ⟨_, readLines_eq kind single, ?_, fun index => lastIndex?_eq_some_iff.1⟩
    exact lastIndex?_eq_none_iff.trans List.length_eq_zero_iff
  detection := detect_eq source
  extraction := extract_eq kind source
  parsing := by
    rw [parse_eq]
    cases parsed : DiagramGraph.parse source with
    | ok model => exact .inl ⟨model, rfl⟩
    | error error =>
        obtain rfl := Detection.eq_missingDirective_of_parse parsed
        exact .inr rfl

/-- None of the accesses is safe by itself: each of them fails on a group that is not
set, on an index behind the last element, or on a place behind a text. -/
example :
    attributeRule.make [] [] = .error (.group 3) ∧ elementAt [] 0 = .error (.element 0) ∧
      partFrom ['-'] 2 = .error (.part 2) :=
  ⟨rfl, rfl, rfl⟩

end Indexed

end DiagramGraph
