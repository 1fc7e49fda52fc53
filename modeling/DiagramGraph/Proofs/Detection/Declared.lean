import DiagramGraph.Proofs.Detection.Rules
import DiagramGraph.Proofs.Text.Lines

/-!
# Detection and declarations

What opens a declaration on a line also announces it to detection, if the
declared name is a word: a source in which a class is declared by such a name is
a class diagram, and likewise for actors, use cases and entities, as far as no
other announcement counts before theirs. A quoted name announces nothing.
-/

namespace DiagramGraph

open DiagramGraph.Text DiagramGraph.Detection

/-! ## Content in its source -/

/-- A gap in front keeps a word apart from what stands further in front. -/
theorem apart_of_gap {front gap : List Char} (nonempty : gap ≠ [])
    (blank : ∀ char ∈ gap, isBlank char = true) :
    ∀ last ∈ (front ++ gap).getLast?, isWord last = false := by
  intro last ends
  rw [List.getLast?_append, List.getLast?_eq_some_getLast nonempty, Option.some_or] at ends
  cases ends
  exact isWord_eq_false_of_isBlank (blank _ (List.getLast_mem nonempty))

/-- A content line stands in its source, and not behind a word character. -/
theorem exists_split_of_mem_contentLines {source line : List Char}
    (member : line ∈ contentLines source) :
    ∃ before behind, source = before ++ (line ++ behind) ∧
      ∀ last ∈ before.getLast?, isWord last = false := by
  obtain ⟨trimmed, -⟩ := List.mem_filter.1 member
  obtain ⟨raw, rawMember, rfl⟩ := List.mem_map.1 trimmed
  obtain ⟨blanks, ending, split, blank, -⟩ := exists_split_trim raw
  obtain ⟨front, back, cut⟩ := List.append_of_mem rawMember
  have indented : ∀ last ∈ blanks.getLast?, isWord last = false := fun last ends =>
    isWord_eq_false_of_isBlank (blank last (List.mem_of_getLast? ends))
  have text : source = joined (front ++ raw :: back) := by rw [← cut, joined_lines]
  have onward : joined (raw :: back) =
      blanks ++ (trim raw ++ (ending ++ back.flatMap ('\n' :: ·))) := by
    calc
      _ = raw ++ back.flatMap ('\n' :: ·) := joined_cons raw back
      _ = blanks ++ (trim raw ++ ending) ++ back.flatMap ('\n' :: ·) :=
        congrArg (· ++ back.flatMap ('\n' :: ·)) split
      _ = _ := by simp only [List.append_assoc]
  rcases joined_append_cases front (raw :: back) with ⟨-, same⟩ | ⟨impossible, -⟩ | same
  · exact ⟨blanks, _, by rw [text, same, onward], indented⟩
  · contradiction
  · refine ⟨joined front ++ '\n' :: blanks, ending ++ back.flatMap ('\n' :: ·), ?_, ?_⟩
    · rw [text, same, onward]
      simp
    · apply apart_of_gap (by simp)
      simp only [List.forall_mem_cons]
      exact ⟨by decide, blank⟩

theorem Detection.Announced.of_mem_contentLines {keyword source line : List Char}
    (announced : Announced keyword line) (member : line ∈ contentLines source) :
    Announced keyword source := by
  obtain ⟨before, behind, rfl, apart⟩ := exists_split_of_mem_contentLines member
  exact announced.extend apart behind

/-! ## Declarations by a word -/

/-- A declared name that is not in quotes is a word. -/
theorem exists_word_of_named? {text : List Char} {declaration : Declaration}
    (read : Declaration.named? text = some declaration) (bare : text.head? ≠ some '"') :
    ∃ first ∈ text.head?, isWord first = true := by
  obtain ⟨part, parts, -⟩ := Option.map_eq_some_iff.1 read
  obtain ⟨⟨name, rest⟩, named, -⟩ := Option.bind_eq_some_iff.1 parts
  have unquoted : quoted? text = none := by
    apply quoted?_eq_none
    rintro first starts rfl
    exact bare starts
  rw [name?, unquoted] at named
  obtain ⟨nonempty, taken, -⟩ := run?_eq_some_iff.1 named
  rw [← taken] at nonempty
  exact takeWhile_ne_nil_iff.1 nonempty

/-- A line declares a class by a word. -/
structure ClassLine.DeclaresWord (line : List Char) : Prop where
  accepted : (class? line).isSome
  bare : ∀ isAbstract named, classHead? line = some (isAbstract, named) → named.head? ≠ some '"'

/-- A line declares an actor or a use case by a word. -/
structure UseCaseLine.DeclaresWord (line : List Char) : Prop where
  accepted : (declaration? line).isSome
  bare : ∀ keyword named, leadingWord? line = some (keyword, named) → named.head? ≠ some '"'

/-- A line declares an entity by a word. -/
structure EntityLine.DeclaresWord (line : List Char) : Prop where
  accepted : (entity? line).isSome
  bare : ∀ keyword named, leadingWord? line = some (keyword, named) → named.head? ≠ some '"'

section Lines

variable {line : List Char}

/-- What opens a class declaration announces a class, with or without a modifier
in front. -/
theorem ClassLine.announced_of_classHead? {isAbstract : Bool} {named : List Char}
    (head : classHead? line = some (isAbstract, named))
    (word : ∃ first ∈ named.head?, isWord first = true) : Announced "class".toList line := by
  obtain ⟨⟨first, rest⟩, leading, chosen⟩ := Option.bind_eq_some_iff.1 head
  dsimp only at chosen
  split at chosen
  · next isClass =>
      cases chosen
      rw [← isClass]
      exact announced_of_leadingWord? leading word
  split at chosen
  · obtain ⟨⟨second, behind⟩, leadingClass, chosen⟩ := Option.bind_eq_some_iff.1 chosen
    dsimp only at chosen
    split at chosen
    · next isClass =>
        cases chosen
        obtain ⟨gap, rfl, -, nonempty, blank⟩ := exists_gap_of_leadingWord? leading
        have inner := announced_of_leadingWord? leadingClass word
        rw [isClass] at inner
        have apart : ∀ last ∈ (first ++ gap).getLast?, isWord last = false :=
          apart_of_gap nonempty blank
        have outer := inner.extend apart []
        rwa [List.append_nil, List.append_assoc] at outer
    · contradiction
  · contradiction

theorem ClassLine.DeclaresWord.announced (declares : ClassLine.DeclaresWord line) :
    Announced "class".toList line := by
  obtain ⟨element, accepted⟩ := Option.isSome_iff_exists.1 declares.accepted
  obtain ⟨⟨isAbstract, named⟩, head, others⟩ := Option.bind_eq_some_iff.1 accepted
  obtain ⟨declaration, read, -⟩ := Option.bind_eq_some_iff.1 others
  exact announced_of_classHead? head
    (exists_word_of_named? read (declares.bare isAbstract named head))

theorem UseCaseLine.eq_of_lookup_keywords {keyword : List Char} {type : String}
    (listed : keywords.lookup (String.ofList keyword) = some type) :
    keyword = "actor".toList ∨ keyword = "usecase".toList := by
  simp only [keywords, List.lookup_cons, List.lookup_nil] at listed
  split at listed
  · next same =>
      left
      rw [← eq_of_beq same, String.toList_ofList]
  split at listed
  · next same =>
      right
      rw [← eq_of_beq same, String.toList_ofList]
  · contradiction

theorem UseCaseLine.DeclaresWord.announced (declares : UseCaseLine.DeclaresWord line) :
    AnnouncesUseCase line := by
  obtain ⟨element, accepted⟩ := Option.isSome_iff_exists.1 declares.accepted
  obtain ⟨⟨type, declaration⟩, read, -⟩ := Option.map_eq_some_iff.1 accepted
  obtain ⟨⟨keyword, named⟩, leading, others⟩ := Option.bind_eq_some_iff.1 read
  obtain ⟨found, listed, others⟩ := Option.bind_eq_some_iff.1 others
  obtain ⟨same, read, -⟩ := Option.bind_eq_some_iff.1 others
  have word := exists_word_of_named? read (declares.bare keyword named leading)
  have announced := announced_of_leadingWord? leading word
  rcases UseCaseLine.eq_of_lookup_keywords listed with rfl | rfl
  · exact .inl announced
  · exact .inr announced

theorem EntityLine.DeclaresWord.announced (declares : EntityLine.DeclaresWord line) :
    Announced "entity".toList line := by
  obtain ⟨element, accepted⟩ := Option.isSome_iff_exists.1 declares.accepted
  obtain ⟨declaration, read, -⟩ := Option.map_eq_some_iff.1 accepted
  obtain ⟨⟨keyword, named⟩, leading, chosen⟩ := Option.bind_eq_some_iff.1 read
  dsimp only at chosen
  split at chosen
  · next isEntity =>
      rw [← isEntity]
      exact announced_of_leadingWord? leading
        (exists_word_of_named? chosen (declares.bare keyword named leading))
  · contradiction

end Lines

/-! ## The main statement -/

/-- Declarations by a word have their effect on detection if no directive tells
the kind: a class makes a class diagram, an actor or a use case a use-case diagram
unless there is a class, and an entity an entity diagram unless there is one of
these. -/
theorem detect_of_declaresWord {source : String} {line : List Char}
    (onlyBare : OnlyBare source.toList) (member : line ∈ contentLines source.toList) :
    (ClassLine.DeclaresWord line → detect source = .ok .classes) ∧
      (UseCaseLine.DeclaresWord line →
        detect source = .ok .classes ∨ detect source = .ok .useCase) ∧
      (EntityLine.DeclaresWord line →
        detect source = .ok .classes ∨ detect source = .ok .useCase ∨
          detect source = .ok .entityRelationship) := by
  have content := suggests_guess source.toList
  rw [detect_of_onlyBare onlyBare]
  refine ⟨fun declares => ?_, fun declares => ?_, fun declares => ?_⟩
  · have announced := declares.announced.of_mem_contentLines member
    rw [(Suggests.classes announced).guess_eq]
  · have announced : AnnouncesUseCase source.toList :=
      declares.announced.imp (·.of_mem_contentLines member) (·.of_mem_contentLines member)
    generalize guess source.toList = kind at content
    cases content with
    | classes => exact .inl rfl
    | useCase => exact .inr rfl
    | entityRelationship noClass noUseCase => exact absurd announced noUseCase
    | sequence noClass noUseCase => exact absurd announced noUseCase
    | generic noClass noUseCase => exact absurd announced noUseCase
  · have announced := declares.announced.of_mem_contentLines member
    generalize guess source.toList = kind at content
    cases content with
    | classes => exact .inl rfl
    | useCase => exact .inr (.inl rfl)
    | entityRelationship => exact .inr (.inr rfl)
    | sequence noClass noUseCase noEntity => exact absurd announced noEntity
    | generic noClass noUseCase noEntity => exact absurd announced noEntity

/-- A source with a declaration of every sort. -/
def orderSource : String :=
  "@startuml\nentity Order\nusecase Pay\n  abstract class Item << held >>\nactor Buyer\n@enduml"

theorem detect_orderSource :
    OnlyBare orderSource.toList ∧
      "abstract class Item << held >>".toList ∈ contentLines orderSource.toList ∧
      ClassLine.DeclaresWord "abstract class Item << held >>".toList ∧
      detect orderSource = .ok .classes := by
  have onlyBare : OnlyBare orderSource.toList := onlyBare_iff.2 (by decide +kernel)
  have member : "abstract class Item << held >>".toList ∈ contentLines orderSource.toList := by
    decide +kernel
  have declares : ClassLine.DeclaresWord "abstract class Item << held >>".toList := by
    refine ⟨by decide +kernel, fun isAbstract named head => ?_⟩
    have read : ClassLine.classHead? "abstract class Item << held >>".toList =
        some (true, "Item << held >>".toList) := by decide +kernel
    rw [read] at head
    cases head
    decide +kernel
  exact ⟨onlyBare, member, declares, (detect_of_declaresWord onlyBare member).1 declares⟩

/-- But a quoted name announces nothing, so a source in which a class is declared
that way need not be a class diagram. -/
theorem exists_class_not_detected :
    ¬ ∀ source line, OnlyBare source.toList → line ∈ contentLines source.toList →
      (ClassLine.class? line).isSome → detect source = .ok .classes := by
  intro agree
  have drawn := agree "@startuml\nclass \"Order Line\"\n@enduml" "class \"Order Line\"".toList
    (onlyBare_iff.2 (by decide +kernel)) (by decide +kernel) (by decide +kernel)
  have guessed : detect "@startuml\nclass \"Order Line\"\n@enduml" = .ok .generic :=
    detect_of_kind? (by decide +kernel)
  rw [guessed] at drawn
  cases drawn

end DiagramGraph
