import DiagramGraph.Proofs.Entry.Assembly
import DiagramGraph.Proofs.Written.ClassReading
import DiagramGraph.Source
import Mathlib.Data.Option.Basic

/-!
# The rules of a kind of diagram

The lines of every kind of diagram are read by the same scheme: a line is tried
as a declaration, as a relationship, as an attribute, as a method and as a
literal, in this order, and kinds without members have no rules for these. The
rules for members are exclusive, so their order does not count.
-/

namespace DiagramGraph

open DiagramGraph.Text

/-- The rules by which lines are read, in the order in which they are tried. -/
structure LineRules where
  declaration? : List Char → Option Element
  relationship? : List Char → Option Relationship := fun _ => none
  attribute? : List Char → Option Attribute := fun _ => none
  method? : List Char → Option Method := fun _ => none
  literal? : List Char → Option String := fun _ => none

namespace LineRules

/-- The entry that a line makes under some rules. -/
def read? (rules : LineRules) (line : List Char) : Option Entry :=
  (rules.declaration? line).map Entry.element <|>
    (rules.relationship? line).map Entry.relationship <|>
      (rules.attribute? line).map Entry.field <|>
        (rules.method? line).map Entry.method <|> (rules.literal? line).map Entry.literal

/-- What a line is read as: by the rule of the entry, and by none of the rules in
front of it. -/
inductive Reads (rules : LineRules) (line : List Char) : Entry → Prop where
  | element {declared : Element} (declares : rules.declaration? line = some declared) :
      Reads rules line (.element declared)
  | relationship {stated : Relationship} (undeclared : rules.declaration? line = none)
      (states : rules.relationship? line = some stated) : Reads rules line (.relationship stated)
  | field {field : Attribute} (undeclared : rules.declaration? line = none)
      (unrelated : rules.relationship? line = none) (gives : rules.attribute? line = some field) :
      Reads rules line (.field field)
  | method {method : Method} (undeclared : rules.declaration? line = none)
      (unrelated : rules.relationship? line = none) (noAttribute : rules.attribute? line = none)
      (gives : rules.method? line = some method) : Reads rules line (.method method)
  | literal {text : String} (undeclared : rules.declaration? line = none)
      (unrelated : rules.relationship? line = none) (noAttribute : rules.attribute? line = none)
      (noMethod : rules.method? line = none) (gives : rules.literal? line = some text) :
      Reads rules line (.literal text)

/-- At most one of the rules for members accepts a line. -/
structure Exclusive (rules : LineRules) : Prop where
  attributes : ∀ line field, rules.attribute? line = some field →
    rules.method? line = none ∧ rules.literal? line = none
  methods : ∀ line method, rules.method? line = some method → rules.literal? line = none

variable {rules : LineRules} {line : List Char} {entry : Entry}

theorem read?_eq_some_iff : rules.read? line = some entry ↔ rules.Reads line entry := by
  constructor
  · intro read
    simp only [read?, Option.orElse_eq_some, Option.map_eq_some_iff, Option.map_eq_none_iff]
      at read
    rcases read with
      ⟨_, declares, rfl⟩ |
      ⟨undeclared, ⟨_, states, rfl⟩ |
      ⟨unrelated, ⟨_, gives, rfl⟩ |
      ⟨noAttribute, ⟨_, gives, rfl⟩ |
      ⟨noMethod, _, gives, rfl⟩⟩⟩⟩
    · exact .element declares
    · exact .relationship undeclared states
    · exact .field undeclared unrelated gives
    · exact .method undeclared unrelated noAttribute gives
    · exact .literal undeclared unrelated noAttribute noMethod gives
  · intro reads
    cases reads with
    | element declares => simp [read?, declares]
    | relationship undeclared states => simp [read?, undeclared, states]
    | field undeclared unrelated gives => simp [read?, undeclared, unrelated, gives]
    | method undeclared unrelated noAttribute gives =>
        simp [read?, undeclared, unrelated, noAttribute, gives]
    | literal undeclared unrelated noAttribute noMethod gives =>
        simp [read?, undeclared, unrelated, noAttribute, noMethod, gives]

theorem read?_eq_none_iff :
    rules.read? line = none ↔
      rules.declaration? line = none ∧ rules.relationship? line = none ∧
        rules.attribute? line = none ∧ rules.method? line = none ∧ rules.literal? line = none := by
  simp [read?]

end LineRules

/-! ## The rules of each kind -/

namespace DiagramKind

/-- The rules for the lines of a diagram of the given kind. -/
def rules : DiagramKind → LineRules
  | .classes =>
      { declaration? := ClassLine.declaration?
        relationship? := ClassLine.relationship?
        attribute? := ClassLine.attribute?
        method? := ClassLine.method?
        literal? := fun line => (ClassLine.literal? line).map String.ofList }
  | .sequence =>
      { declaration? := SequenceLine.participant?
        relationship? := SequenceLine.message? }
  | .useCase =>
      { declaration? := UseCaseLine.declaration?
        relationship? := UseCaseLine.link? }
  | .entityRelationship =>
      { declaration? := EntityLine.entity?
        relationship? := EntityLine.relation?
        attribute? := EntityLine.attribute? }
  | .object | .activity | .component | .state | .deployment | .generic =>
      { declaration? := PairLine.element? }

/-- Every kind of diagram is read by its rules. -/
theorem entryOf?_eq_rules (kind : DiagramKind) (line : List Char) :
    kind.entryOf? line = kind.rules.read? line := by
  cases kind with
  | classes =>
      simp [entryOf?, rules, LineRules.read?, ClassLine.entryOf?, ClassLine.member?,
        Function.comp_def]
  | sequence => simp [entryOf?, rules, LineRules.read?, SequenceLine.entryOf?]
  | useCase => simp [entryOf?, rules, LineRules.read?, UseCaseLine.entryOf?]
  | entityRelationship => simp [entryOf?, rules, LineRules.read?, EntityLine.entryOf?]
  | object | activity | component | state | deployment | generic =>
      simp [entryOf?, rules, LineRules.read?, PairLine.entryOf?]

theorem reads_of_entryOf? {kind : DiagramKind} {line : List Char} {entry : Entry}
    (read : kind.entryOf? line = some entry) : kind.rules.Reads line entry := by
  rw [entryOf?_eq_rules] at read
  exact LineRules.read?_eq_some_iff.1 read

end DiagramKind

/-! ## Members -/

namespace ClassLine

/-- The first visible character behind the name of a member. -/
def behindName? (line : List Char) : Option Char :=
  (word? (memberHead line).2.2).bind fun (_, rest) => (trimStart rest).head?

/-- A member that begins with its name has nothing in front of it. -/
theorem memberHead_eq_self {line : List Char} (word : (word? line).isSome) :
    memberHead line = (.publicAccess, none, line) := by
  obtain ⟨⟨name, rest⟩, read⟩ := Option.isSome_iff_exists.1 word
  obtain ⟨nonempty, taken, -⟩ := run?_eq_some_iff.1 read
  rw [← taken] at nonempty
  obtain ⟨first, starts, isWord⟩ := takeWhile_ne_nil_iff.1 nonempty
  obtain ⟨others, rfl⟩ := List.head?_eq_some_iff.1 starts
  have unmarked : marker (first :: others) = (none, first :: others) := by
    simp [marker, Written.isMarker_eq_false_of_isWord isWord]
  have unmodified : modifier (first :: others) = (none, first :: others) := by
    apply Written.modifier_eq_none
    rintro char ⟨⟩ rfl
    exact absurd isWord (by decide)
  simp [memberHead, unmarked, unmodified, Visibility.ofMarker]

variable {line : List Char}

/-- The name of an attribute is followed by a colon. -/
theorem behindName?_of_attribute? {field : Attribute} (gives : attribute? line = some field) :
    behindName? line = some ':' := by
  obtain ⟨⟨name, rest⟩, named, others⟩ := Option.bind_eq_some_iff.1 gives
  obtain ⟨typed, colon, -⟩ := Option.bind_eq_some_iff.1 others
  have named : word? (memberHead line).2.2 = some (name, rest) := named
  unfold afterColon? at colon
  split at colon
  · next shape => simp [behindName?, named, shape]
  · contradiction

/-- The name of a method is followed by its parameters. -/
theorem behindName?_of_method? {method : Method} (gives : method? line = some method) :
    behindName? line = some '(' := by
  obtain ⟨⟨name, rest⟩, named, others⟩ := Option.bind_eq_some_iff.1 gives
  obtain ⟨parameters, opened, -⟩ := Option.bind_eq_some_iff.1 others
  have named : word? (memberHead line).2.2 = some (name, rest) := named
  unfold parameters? at opened
  split at opened
  · next shape => simp [behindName?, named, shape]
  · contradiction

/-- A literal is followed by a comma or by nothing. -/
theorem behindName?_of_literal? {text : List Char} (gives : literal? line = some text) :
    behindName? line = none ∨ behindName? line = some ',' := by
  obtain ⟨⟨name, rest⟩, named, others⟩ := Option.bind_eq_some_iff.1 gives
  rw [behindName?, memberHead_eq_self (by rw [named]; rfl), named, Option.bind_some]
  dsimp only at others ⊢
  split at others
  · next shape => exact .inl (by rw [shape]; rfl)
  · next shape => exact .inr (by rw [shape]; rfl)
  · contradiction

end ClassLine

namespace DiagramKind

/-- What stands behind its name tells an attribute from a method and from a
literal. -/
theorem exclusive_rules (kind : DiagramKind) : kind.rules.Exclusive := by
  cases kind with
  | classes =>
      refine ⟨fun line field gives => ⟨?_, ?_⟩, fun line method gives => ?_⟩
      · have colon := ClassLine.behindName?_of_attribute? gives
        rw [Option.eq_none_iff_forall_ne_some]
        intro method opened
        simp [ClassLine.behindName?_of_method? opened] at colon
      · have colon := ClassLine.behindName?_of_attribute? gives
        rw [Option.eq_none_iff_forall_ne_some]
        intro text ended
        obtain ⟨word, read, -⟩ := Option.map_eq_some_iff.1 ended
        simpa [colon] using ClassLine.behindName?_of_literal? read
      · have opened := ClassLine.behindName?_of_method? gives
        rw [Option.eq_none_iff_forall_ne_some]
        intro text ended
        obtain ⟨word, read, -⟩ := Option.map_eq_some_iff.1 ended
        simpa [opened] using ClassLine.behindName?_of_literal? read
  | sequence | useCase | entityRelationship | object | activity | component | state | deployment
    | generic => exact ⟨fun line field gives => ⟨rfl, rfl⟩, fun line method gives => rfl⟩

end DiagramKind

end DiagramGraph
