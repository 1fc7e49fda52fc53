import DiagramGraph.Proofs.Detection.Declared
import DiagramGraph.Proofs.Entry.Rules
import DiagramGraph.Proofs.Written.Connector
import Mathlib.Data.List.Basic

/-!
# The order of the rules for class diagrams

A line of a class diagram is tried by seven rules one after the other. What stands behind
its first word tells the rules for members apart from each other and from all other
rules, and its first word tells the declarations apart. Only a declaration and a
relationship can be read off the same line, and then the relationship starts from the
word of the declaration. So nothing counts about the order but that declarations come
before relationships.
-/

namespace DiagramGraph.ClassLine

open DiagramGraph.Text DiagramGraph.Written

/-- The rules for the lines of class diagrams. -/
inductive Rule where
  | classes
  | interfaces
  | enumerations
  | relationships
  | attributes
  | methods
  | literals
  deriving DecidableEq, Repr

namespace Rule

/-- The entry that a line makes by one rule. -/
def entryOf? : Rule → List Char → Option Entry
  | classes, line => (class? line).map Entry.element
  | interfaces, line => (interface? line).map Entry.element
  | enumerations, line => (enumeration? line).map Entry.element
  | relationships, line => (relationship? line).map Entry.relationship
  | attributes, line => (attribute? line).map Entry.field
  | methods, line => (method? line).map Entry.method
  | literals, line => (literal? line).map fun text => Entry.literal (String.ofList text)

/-- The rules in the order in which they are tried. -/
def all : List Rule :=
  [classes, interfaces, enumerations, relationships, attributes, methods, literals]

theorem mem_all (rule : Rule) : rule ∈ all := by
  cases rule <;> decide

theorem entryOf?_eq_findSome? (line : List Char) :
    ClassLine.entryOf? line = all.findSome? fun rule => rule.entryOf? line := by
  have step (rule : Rule) (rules : List Rule) :
      ((rule :: rules).findSome? fun rule => rule.entryOf? line) =
        (rule.entryOf? line).or (rules.findSome? fun rule => rule.entryOf? line) := by
    cases read : rule.entryOf? line <;> simp [read]
  rw [all, step, step, step, step, step, step, step, List.findSome?_nil]
  simp only [entryOf?, ClassLine.entryOf?, declaration?, member?, Option.orElse_eq_orElse,
    Option.orElse_eq_or, Option.map_or, Option.or_assoc, Option.or_none]

/-- Whether a rule is for declarations. -/
def isDeclaration : Rule → Bool
  | classes | interfaces | enumerations => true
  | _ => false

/-- Whether a rule is for members. -/
def isMember : Rule → Bool
  | attributes | methods | literals => true
  | _ => false

/-- The rule accepts the line. -/
def Accepts (rule : Rule) (line : List Char) : Prop :=
  (rule.entryOf? line).isSome

instance (rule : Rule) (line : List Char) : Decidable (rule.Accepts line) :=
  inferInstanceAs (Decidable (_ = true))

/-! ## What stands behind the first word -/

/-- The characters that connectors are drawn with. -/
def drawnChars : List Char :=
  AdornedConnector.leftAdornments ++ AdornedConnector.rightAdornments ++ ['-', '.']

/-- Whether a line that a rule accepts may have this character behind its first word. -/
def opens : Rule → Option Char → Bool
  | classes, next | interfaces, next | enumerations, next =>
      next.any fun char => char == '"' || isWord char
  | relationships, next => next.any fun char => char == '"' || drawnChars.contains char
  | attributes, next => next == some ':'
  | methods, next => next == some '('
  | literals, next => next == some ',' || next == none

/-- The words with which the lines of a rule for declarations begin. -/
def keywords : Rule → List (List Char)
  | classes => [classWord.text, abstractWord.text]
  | interfaces => [interfaceWord.text]
  | enumerations => [enumWord.text]
  | _ => []

end Rule

section Lines

variable {line word behind : List Char}

/-- Behind a leading word stands what follows the gap. -/
theorem behindName?_of_leadingWord? (leading : leadingWord? line = some (word, behind)) :
    behindName? line = behind.head? := by
  rcases Option.bind_eq_some_iff.1 leading with ⟨⟨found, rest⟩, read, others⟩
  rcases Option.bind_eq_some_iff.1 others with ⟨remaining, skipped, same⟩
  cases same
  rcases gap?_eq_some_iff.1 skipped with ⟨gap, -, blank, visible, rfl⟩
  have isWord : (word? line).isSome := by
    rw [read]
    rfl
  simp [behindName?, memberHead_eq_self isWord, read,
    trimStart_append blank visible]

/-- A declared name begins with a quote or as a word. -/
theorem head_of_named? {declaration : Declaration}
    (named : Declaration.named? behind = some declaration) :
    ∃ first ∈ behind.head?, first = '"' ∨ isWord first = true := by
  by_cases quoted : behind.head? = some '"'
  · exact ⟨'"', quoted, .inl rfl⟩
  · rcases exists_word_of_named? named quoted with ⟨first, starts, isWord⟩
    exact ⟨first, starts, .inr isWord⟩

/-- What opens the declaration of a class is the word `class`, or the word `abstract` in
front of it. -/
theorem leadingWord?_of_classHead? {isAbstract : Bool} {named : List Char}
    (head : classHead? line = some (isAbstract, named)) :
    leadingWord? line = some (classWord.text, named) ∨
      ∃ rest, leadingWord? line = some (abstractWord.text, rest) ∧ rest.head? = some 'c' := by
  rcases Option.bind_eq_some_iff.1 head with ⟨⟨first, rest⟩, leading, chosen⟩
  dsimp only at chosen
  split at chosen
  · next isClass =>
      cases chosen
      rw [isClass] at leading
      exact .inl leading
  split at chosen
  · next isAbstract =>
      rcases Option.bind_eq_some_iff.1 chosen with ⟨⟨second, further⟩, leadingClass, chosen⟩
      dsimp only at chosen
      split at chosen
      · next isClass =>
          have begins : "class".toList.head? = some 'c' := by decide
          rw [isAbstract] at leading
          refine .inr ⟨rest, leading, ?_⟩
          rw [← head?_of_leadingWord? leadingClass, isClass, begins]
      · contradiction
  · contradiction

/-- A line that declares something begins with a word of its rule. Behind it stands a name,
unless it is the word `abstract`. -/
theorem exists_leadingWord?_of_declaration {rule : Rule} (declares : rule.isDeclaration = true)
    (accepts : rule.Accepts line) :
    ∃ word rest, leadingWord? line = some (word, rest) ∧ word ∈ rule.keywords ∧
      (word = abstractWord.text → rest.head? = some 'c') ∧
      ∃ first ∈ rest.head?, first = '"' ∨ isWord first = true := by
  have ofRead {keyword : List Char} (other : keyword ≠ abstractWord.text)
      (listed : keyword ∈ rule.keywords) (found : (Declaration.read? keyword line).isSome) :
      ∃ word rest, leadingWord? line = some (word, rest) ∧ word ∈ rule.keywords ∧
        (word = abstractWord.text → rest.head? = some 'c') ∧
        ∃ first ∈ rest.head?, first = '"' ∨ isWord first = true := by
    rcases Option.isSome_iff_exists.1 found with ⟨declaration, read⟩
    rcases Option.bind_eq_some_iff.1 read with ⟨⟨word, rest⟩, leading, named⟩
    dsimp only at named
    split at named
    · next same =>
        rw [same] at leading
        exact ⟨keyword, rest, leading, listed, fun same => absurd same other, head_of_named? named⟩
    · contradiction
  cases rule with
  | classes =>
      rw [Rule.Accepts, Rule.entryOf?, Option.isSome_map, Option.isSome_iff_exists] at accepts
      rcases accepts with ⟨declared, isClass⟩
      rcases Option.bind_eq_some_iff.1 isClass with ⟨⟨isAbstract, named⟩, head, others⟩
      rcases Option.bind_eq_some_iff.1 others with ⟨declaration, read, -⟩
      rcases leadingWord?_of_classHead? head with leading | ⟨rest, leading, starts⟩
      · exact ⟨_, named, leading, List.mem_cons_self, fun same => absurd same (by decide),
          head_of_named? read⟩
      · exact ⟨_, rest, leading, List.mem_cons_of_mem _ List.mem_cons_self, fun _ => starts,
          'c', starts, .inr (by decide)⟩
  | interfaces =>
      rw [Rule.Accepts, Rule.entryOf?, Option.isSome_map, interface?, Option.isSome_map] at accepts
      exact ofRead (by decide) List.mem_cons_self accepts
  | enumerations =>
      rw [Rule.Accepts, Rule.entryOf?, Option.isSome_map, enumeration?,
        Option.isSome_map] at accepts
      exact ofRead (by decide) List.mem_cons_self accepts
  | relationships | attributes | methods | literals => contradiction

/-- A relationship starts from the first word of its line, and a quote or a connector
follows. -/
theorem exists_leadingWord?_of_relationship {stated : Relationship}
    (states : relationship? line = some stated) :
    ∃ word behind, leadingWord? line = some (word, behind) ∧ stated.source = String.ofList word ∧
      ∃ first ∈ behind.head?, first = '"' ∨ first ∈ Rule.drawnChars := by
  rcases Option.map_eq_some_iff.1 states with ⟨parts, parted, rfl⟩
  rcases Option.bind_eq_some_iff.1 parted with ⟨⟨word, behind⟩, leading, others⟩
  rcases Option.bind_eq_some_iff.1 others with ⟨rest, skipped, others⟩
  rcases Option.bind_eq_some_iff.1 others with ⟨⟨connector, further⟩, drawn, others⟩
  rcases Option.bind_eq_some_iff.1 others with ⟨_, -, others⟩
  rcases Option.bind_eq_some_iff.1 others with ⟨_, -, others⟩
  rcases Option.bind_eq_some_iff.1 others with ⟨_, -, same⟩
  cases same
  refine ⟨word, behind, leading, rfl, ?_⟩
  unfold skipQuoted? at skipped
  split at skipped
  · exact ⟨'"', rfl, .inl rfl⟩
  · cases skipped
    rcases Glyph.exists_of_read? drawn with ⟨glyph, split⟩
    rcases List.exists_cons_of_ne_nil glyph.ne_nil with ⟨first, more, shape⟩
    refine ⟨first, by rw [split, shape]; rfl, .inr (glyph.mem_drawn first (by simp [shape]))⟩

end Lines

namespace Rule

/-! ## Rules that accept the same line -/

/-- What stands behind the first word of a line that a rule accepts. -/
theorem opens_behindName? {rule : Rule} {line : List Char} (accepts : rule.Accepts line) :
    rule.opens (behindName? line) = true := by
  have isSome := accepts
  rw [Accepts, Option.isSome_iff_exists] at isSome
  cases declares : rule.isDeclaration with
  | true =>
      rcases exists_leadingWord?_of_declaration declares accepts with
        ⟨word, rest, leading, -, -, first, starts, begins⟩
      rw [behindName?_of_leadingWord? leading, Option.mem_def.1 starts]
      cases rule with
      | classes | interfaces | enumerations => simpa [opens] using begins
      | relationships | attributes | methods | literals => contradiction
  | false =>
      rcases isSome with ⟨entry, read⟩
      cases rule with
      | classes | interfaces | enumerations => contradiction
      | relationships =>
          rcases Option.map_eq_some_iff.1 read with ⟨stated, states, -⟩
          rcases exists_leadingWord?_of_relationship states with
            ⟨word, rest, leading, -, first, starts, begins⟩
          rw [behindName?_of_leadingWord? leading, Option.mem_def.1 starts]
          simpa [opens] using begins
      | attributes =>
          rcases Option.map_eq_some_iff.1 read with ⟨field, gives, -⟩
          rw [behindName?_of_attribute? gives]
          rfl
      | methods =>
          rcases Option.map_eq_some_iff.1 read with ⟨method, gives, -⟩
          rw [behindName?_of_method? gives]
          rfl
      | literals =>
          rcases Option.map_eq_some_iff.1 read with ⟨text, gives, -⟩
          rcases behindName?_of_literal? gives with behind | behind
          · rw [behind]
            rfl
          · rw [behind]
            rfl

/-- The marks behind the names of members are those of one rule each. -/
theorem eq_of_opens {member other : Rule} (isMember : member.isMember = true)
    {next : Option Char} (opens : member.opens next = true)
    (otherOpens : other.opens next = true) : other = member := by
  have marks : ∀ member ∈ all, ∀ next ∈ [none, some ':', some '(', some ','], ∀ other ∈ all,
      member.isMember = true → member.opens next = true → other.opens next = true →
        other = member := by
    decide
  have mark : next ∈ [none, some ':', some '(', some ','] := by
    cases member with
    | classes | interfaces | enumerations | relationships => contradiction
    | attributes | methods =>
        rw [beq_iff_eq.1 opens]
        simp
    | literals =>
        rcases Bool.or_eq_true_iff.1 opens with comma | nothing
        · rw [beq_iff_eq.1 comma]
          simp
        · rw [beq_iff_eq.1 nothing]
          simp
  exact marks member member.mem_all next mark other other.mem_all isMember opens otherOpens

/-- The words of different declarations are different. -/
theorem eq_of_mem_keywords {first second : Rule} {word : List Char}
    (inFirst : word ∈ first.keywords) (inSecond : word ∈ second.keywords) : first = second := by
  have disjoint : ∀ first ∈ all, ∀ second ∈ all, ∀ word ∈ first.keywords,
      word ∈ second.keywords → first = second := by
    decide
  exact disjoint first first.mem_all second second.mem_all word inFirst inSecond

/-- A rule for declarations and that for relationships. -/
def Rival (first second : Rule) : Prop :=
  first.isDeclaration = true ∧ second = relationships

variable {first second : Rule} {line : List Char}

theorem eq_of_accepts_of_isMember (isMember : first.isMember = true)
    (accepts : first.Accepts line) (others : second.Accepts line) : second = first :=
  eq_of_opens isMember (opens_behindName? accepts) (opens_behindName? others)

theorem eq_of_accepts_of_isDeclaration (declares : first.isDeclaration = true)
    (declaresSecond : second.isDeclaration = true) (accepts : first.Accepts line)
    (others : second.Accepts line) : first = second := by
  rcases exists_leadingWord?_of_declaration declares accepts with ⟨word, rest, leading, listed, -⟩
  rcases exists_leadingWord?_of_declaration declaresSecond others with
    ⟨found, behind, again, listedSecond, -⟩
  rw [leading] at again
  cases again
  exact eq_of_mem_keywords listed listedSecond

/-- A rule other than one for members is for declarations or for relationships. -/
theorem cases_of_not_isMember (noMember : first.isMember = false) :
    first.isDeclaration = true ∨ first = relationships := by
  cases first <;> simp_all [isMember, isDeclaration]

/-- Two rules that accept the same line are one for declarations and that for
relationships. -/
theorem rival_of_accepts (different : first ≠ second) (accepts : first.Accepts line)
    (others : second.Accepts line) : Rival first second ∨ Rival second first := by
  cases isMember : first.isMember with
  | true => exact absurd (eq_of_accepts_of_isMember isMember accepts others).symm different
  | false =>
      cases isMemberSecond : second.isMember with
      | true => exact absurd (eq_of_accepts_of_isMember isMemberSecond others accepts) different
      | false =>
          rcases cases_of_not_isMember isMember with declares | rfl
          · rcases cases_of_not_isMember isMemberSecond with declaresSecond | rfl
            · exact absurd
                (eq_of_accepts_of_isDeclaration declares declaresSecond accepts others) different
            · exact .inl ⟨declares, rfl⟩
          · rcases cases_of_not_isMember isMemberSecond with declaresSecond | rfl
            · exact .inr ⟨declaresSecond, rfl⟩
            · exact absurd rfl different

/-- If a line declares something and states a relationship, this starts from the word of the
declaration. -/
theorem source_of_rival (declares : first.isDeclaration = true) (accepts : first.Accepts line)
    {stated : Relationship} (states : relationship? line = some stated) :
    stated.source ∈ ["class", "interface", "enum"] := by
  rcases exists_leadingWord?_of_declaration declares accepts with
    ⟨word, rest, leading, listed, isAbstract, -⟩
  rcases exists_leadingWord?_of_relationship states with
    ⟨found, behind, again, source, char, starts, begins⟩
  rw [leading] at again
  cases again
  -- Behind the word `abstract` stands another word, and connectors do not begin like it.
  have notAbstract : word ≠ abstractWord.text := by
    intro same
    rw [isAbstract same] at starts
    cases starts
    revert begins
    decide
  have words : ∀ rule ∈ all, ∀ word ∈ rule.keywords, word ≠ abstractWord.text →
      word ∈ ["class".toList, "interface".toList, "enum".toList] := by
    decide
  have listed := words first first.mem_all word listed notAbstract
  rw [source]
  simp only [List.mem_cons, List.not_mem_nil, or_false] at listed ⊢
  rcases listed with rfl | rfl | rfl <;> simp

/-! ## Other orders -/

/-- An order in which rules can be tried. -/
structure IsOrder (order : List Rule) : Prop where
  complete : ∀ rule, rule ∈ order
  declarationsFirst : ∀ rule, rule.isDeclaration = true →
    order.idxOf rule < order.idxOf relationships

theorem isOrder_all : IsOrder all := by
  refine ⟨mem_all, ?_⟩
  intro rule
  cases rule <;> decide

/-- The rule by which a line is read: it accepts the line, and if it is that for
relationships, none for declarations does. -/
structure Wins (rule : Rule) (line : List Char) (entry : Entry) : Prop where
  read : rule.entryOf? line = some entry
  undeclared : rule = relationships → ∀ other : Rule, other.isDeclaration = true →
    ¬ other.Accepts line

theorem Wins.findSome?_eq {rule : Rule} {entry : Entry} (wins : rule.Wins line entry)
    {order : List Rule} (isOrder : IsOrder order) :
    (order.findSome? fun rule => rule.entryOf? line) = some entry := by
  rcases List.eq_append_cons_of_mem (isOrder.complete rule) with ⟨front, back, rfl, notBefore⟩
  refine List.findSome?_eq_some_iff.2 ⟨front, rule, back, rfl, wins.read, ?_⟩
  intro other before
  rw [← Option.not_isSome_iff_eq_none]
  intro accepts
  have different : rule ≠ other := by
    rintro rfl
    exact notBefore before
  have acceptsRule : rule.Accepts line := by
    rw [Accepts, wins.read]
    rfl
  rcases rival_of_accepts different acceptsRule accepts with ⟨declares, rfl⟩ | ⟨declares, rfl⟩
  · have earlier := isOrder.declarationsFirst rule declares
    rw [List.idxOf_append_of_notMem notBefore, List.idxOf_append_of_mem before] at earlier
    have inFront := List.idxOf_lt_length_of_mem before
    omega
  · exact wins.undeclared rfl other declares accepts

/-- Whenever some rule accepts a line, one wins. -/
theorem exists_wins {rule : Rule} (accepts : rule.Accepts line) :
    ∃ winner entry, Wins winner line entry := by
  by_cases declared : ∃ other, other.isDeclaration = true ∧ Accepts other line
  · rcases declared with ⟨other, declares, accepted⟩
    rcases Option.isSome_iff_exists.1 accepted with ⟨entry, read⟩
    refine ⟨other, entry, read, ?_⟩
    rintro rfl
    contradiction
  · rcases Option.isSome_iff_exists.1 accepts with ⟨entry, read⟩
    exact ⟨rule, entry, read, fun _ other declares accepted => declared ⟨other, declares, accepted⟩⟩

/-- In every order, a line is read as the same. -/
theorem IsOrder.findSome?_eq {order : List Rule} (isOrder : IsOrder order) (line : List Char) :
    (order.findSome? fun rule => rule.entryOf? line) = ClassLine.entryOf? line := by
  rw [entryOf?_eq_findSome?]
  by_cases accepted : ∃ rule, Accepts rule line
  · rcases accepted with ⟨rule, accepts⟩
    rcases exists_wins accepts with ⟨winner, entry, wins⟩
    rw [wins.findSome?_eq isOrder, wins.findSome?_eq isOrder_all]
  · have refused (rules : List Rule) : (rules.findSome? fun rule => rule.entryOf? line) = none := by
      rw [List.findSome?_eq_none_iff]
      intro rule _
      rw [← Option.not_isSome_iff_eq_none]
      exact fun accepts => accepted ⟨rule, accepts⟩
    rw [refused, refused]

/-- The model of a source when the rules are tried in the given order. -/
def modelOf (order : List Rule) (source : String) : Model :=
  Model.ofEntries .classes ((contentLines source.toList).filterMap fun line =>
    order.findSome? fun rule => rule.entryOf? line)

theorem IsOrder.modelOf_eq {order : List Rule} (isOrder : IsOrder order) (source : String) :
    modelOf order source = Model.ofSource .classes source := by
  rw [modelOf, funext isOrder.findSome?_eq]
  rfl

/-- No two rules accept the same line but one for declarations and that for relationships,
and these only where the relationship starts from the word of the declaration. So every
order with the declarations before the relationships gives the same models. -/
theorem rules_compete_at_keywords :
    (∀ first second : Rule, ∀ line, first ≠ second → first.Accepts line → second.Accepts line →
        Rival first second ∨ Rival second first) ∧
      (∀ rule : Rule, ∀ line stated, rule.isDeclaration = true → rule.Accepts line →
        relationship? line = some stated → stated.source ∈ ["class", "interface", "enum"]) ∧
      ∀ order source, IsOrder order → modelOf order source = Model.ofSource .classes source :=
  ⟨fun _ _ _ => rival_of_accepts,
    fun _ _ _ declares accepts states => source_of_rival declares accepts states,
    fun _ source isOrder => isOrder.modelOf_eq source⟩

/-- A line that declares a class and relates one. -/
def wheelLine : List Char := "class o-- Wheel".toList

/-- The relationship on the line. -/
def wheelRelationship : Relationship where
  kind := .aggregation
  source := "class"
  target := "Wheel"

/-- The members first, then the declarations, from the last to the first. -/
def membersFirst : List Rule :=
  [literals, methods, attributes, enumerations, interfaces, classes, relationships]

/-- A class with a line that declares and relates, and with members. -/
def wheelSource : String := "class o-- Wheel\nradius : number\nRED\nturn(angle)"

theorem rules_compete_on_wheelLine :
    (Rival classes relationships ∨ Rival relationships classes) ∧
      relationship? wheelLine = some wheelRelationship ∧
      wheelRelationship.source ∈ ["class", "interface", "enum"] ∧
      IsOrder membersFirst ∧
      modelOf membersFirst wheelSource = Model.ofSource .classes wheelSource := by
  have declares : classes.Accepts wheelLine := by decide +kernel
  have relates : relationships.Accepts wheelLine := by decide +kernel
  have states : relationship? wheelLine = some wheelRelationship := by decide +kernel
  have isOrder : IsOrder membersFirst :=
    ⟨fun rule => by cases rule <;> decide, fun rule => by cases rule <;> decide⟩
  rcases rules_compete_at_keywords with ⟨rivals, keywords, orders⟩
  exact ⟨rivals classes relationships wheelLine (by decide) declares relates, states,
    keywords classes wheelLine wheelRelationship rfl declares states, isOrder,
    orders membersFirst wheelSource isOrder⟩

end Rule

end DiagramGraph.ClassLine
