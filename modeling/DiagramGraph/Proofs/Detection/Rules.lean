import DiagramGraph.Proofs.Detection.Evidence
import DiagramGraph.Source

/-!
# The rules of detection

What kind of diagram a source is taken for, as rules about what occurs in its
text. The rules exclude each other and one of them always applies, so they say
exactly what detection answers.
-/

namespace DiagramGraph.Detection

open DiagramGraph.Text

/-! ## Content -/

/-- Whether an actor or a use case is announced. -/
def AnnouncesUseCase (source : List Char) : Prop :=
  Announced "actor".toList source ∨ Announced "usecase".toList source

/-- The kind that the content of a source suggests. -/
inductive Suggests (source : List Char) : DiagramKind → Prop where
  | classes (named : Announced "class".toList source) : Suggests source .classes
  | useCase (noClass : ¬ Announced "class".toList source) (named : AnnouncesUseCase source) :
      Suggests source .useCase
  | entityRelationship (noClass : ¬ Announced "class".toList source)
      (noUseCase : ¬ AnnouncesUseCase source) (named : Announced "entity".toList source) :
      Suggests source .entityRelationship
  | sequence (noClass : ¬ Announced "class".toList source) (noUseCase : ¬ AnnouncesUseCase source)
      (noEntity : ¬ Announced "entity".toList source) (arrow : ContainsArrow source) :
      Suggests source .sequence
  | generic (noClass : ¬ Announced "class".toList source) (noUseCase : ¬ AnnouncesUseCase source)
      (noEntity : ¬ Announced "entity".toList source) (noArrow : ¬ ContainsArrow source) :
      Suggests source .generic

/-- The guess goes through the telling keywords in order and looks for an arrow at
the end. -/
theorem guess_eq (source : List Char) :
    guess source =
      if announces "class".toList false source then .classes
      else if announces "actor".toList false source || announces "usecase".toList false source then
        .useCase
      else if announces "entity".toList false source then .entityRelationship
      else if hasArrow source then .sequence
      else .generic := by
  have keywords : tellingKeywords =
      [("class".toList, .classes), ("actor".toList, .useCase), ("usecase".toList, .useCase),
        ("entity".toList, .entityRelationship)] := rfl
  rw [guess, keywords]
  simp only [List.find?_cons, List.find?_nil]
  generalize announces "class".toList false source = classes
  generalize announces "actor".toList false source = actors
  generalize announces "usecase".toList false source = useCases
  generalize announces "entity".toList false source = entities
  cases classes <;> cases actors <;> cases useCases <;> cases entities <;> rfl

section Guess

variable {source : List Char}

theorem announces_class_iff :
    announces "class".toList false source = true ↔ Announced "class".toList source :=
  announces_iff_announced (by decide)

theorem announces_useCase_iff :
    (announces "actor".toList false source || announces "usecase".toList false source) = true ↔
      AnnouncesUseCase source := by
  rw [Bool.or_eq_true, announces_iff_announced (by decide), announces_iff_announced (by decide)]
  rfl

theorem announces_entity_iff :
    announces "entity".toList false source = true ↔ Announced "entity".toList source :=
  announces_iff_announced (by decide)

/-- The content suggests what is guessed. -/
theorem suggests_guess (source : List Char) : Suggests source (guess source) := by
  rw [guess_eq]
  split
  · next found => exact .classes (announces_class_iff.1 found)
  next noClass =>
  rw [announces_class_iff] at noClass
  split
  · next found => exact .useCase noClass (announces_useCase_iff.1 found)
  next noUseCase =>
  rw [announces_useCase_iff] at noUseCase
  split
  · next found => exact .entityRelationship noClass noUseCase (announces_entity_iff.1 found)
  next noEntity =>
  rw [announces_entity_iff] at noEntity
  split
  · next found => exact .sequence noClass noUseCase noEntity (hasArrow_iff.1 found)
  · next noArrow =>
      rw [hasArrow_iff] at noArrow
      exact .generic noClass noUseCase noEntity noArrow

/-- Nothing else is suggested. -/
theorem Suggests.guess_eq {kind : DiagramKind} (suggested : Suggests source kind) :
    guess source = kind := by
  rw [Detection.guess_eq]
  cases suggested with
  | classes named => rw [if_pos (announces_class_iff.2 named)]
  | useCase noClass named =>
      rw [if_neg (mt announces_class_iff.1 noClass), if_pos (announces_useCase_iff.2 named)]
  | entityRelationship noClass noUseCase named =>
      rw [if_neg (mt announces_class_iff.1 noClass), if_neg (mt announces_useCase_iff.1 noUseCase),
        if_pos (announces_entity_iff.2 named)]
  | sequence noClass noUseCase noEntity arrow =>
      rw [if_neg (mt announces_class_iff.1 noClass), if_neg (mt announces_useCase_iff.1 noUseCase),
        if_neg (mt announces_entity_iff.1 noEntity), if_pos (hasArrow_iff.2 arrow)]
  | generic noClass noUseCase noEntity noArrow =>
      rw [if_neg (mt announces_class_iff.1 noClass), if_neg (mt announces_useCase_iff.1 noUseCase),
        if_neg (mt announces_entity_iff.1 noEntity), if_neg (mt hasArrow_iff.1 noArrow)]

/-- Texts that announce the same and agree about arrows suggest the same. -/
theorem guess_congr {other : List Char}
    (announced : ∀ keyword ∈ tellingKeywords,
      (Announced keyword.1 source ↔ Announced keyword.1 other))
    (arrow : ContainsArrow source ↔ ContainsArrow other) : guess source = guess other := by
  have nonempty : ∀ keyword ∈ tellingKeywords, keyword.1 ≠ [] := by decide
  have found : ∀ keyword ∈ tellingKeywords,
      announces keyword.1 false source = announces keyword.1 false other := by
    intro keyword member
    rw [Bool.eq_iff_iff, announces_iff_announced (nonempty keyword member),
      announces_iff_announced (nonempty keyword member), announced keyword member]
  have arrows : hasArrow source = hasArrow other := by
    rw [Bool.eq_iff_iff, hasArrow_iff, hasArrow_iff, arrow]
  simp only [tellingKeywords, List.forall_mem_cons] at found
  obtain ⟨classes, actors, useCases, entities, -⟩ := found
  simp only [guess, tellingKeywords, List.find?_cons, List.find?_nil, classes, actors, useCases,
    entities, arrows]

end Guess

/-! ## Directives -/

/-- Whether the word of a directive tells the kind. -/
def isTelling (word : List Char) : Bool :=
  asciiLower word != bareWord

/-- A source is opened by directives that all leave the kind open. -/
structure OnlyBare (source : List Char) : Prop where
  opened : ∃ before behind, DirectiveAt source before behind
  bare : ∀ before behind, DirectiveAt source before behind →
    asciiLower (directiveWord behind) = bareWord

/-- How detection answers for a source. -/
inductive Tells (source : List Char) : Except SourceError DiagramKind → Prop where
  | unopened (none : ∀ before behind, ¬ DirectiveAt source before behind) :
      Tells source (.error .missingDirective)
  | explicit {before behind : List Char} (first : FirstDirective isTelling source before behind) :
      Tells source (.ok (.ofDirective (String.ofList (asciiLower (directiveWord behind)))))
  | content {kind : DiagramKind} (onlyBare : OnlyBare source) (suggests : Suggests source kind) :
      Tells source (.ok kind)

/-- The first telling word decides, and without one the content does. -/
theorem kind?_eq (source : List Char) :
    kind? source =
      if directives source = [] then none
      else match (directives source).find? isTelling with
        | some word => some (.ofDirective (String.ofList (asciiLower word)))
        | none => some (guess source) := by
  rw [kind?]
  cases directives source with
  | nil => rfl
  | cons word words =>
      have telling : ((word :: words).map asciiLower).find? (· != bareWord) =
          ((word :: words).find? isTelling).map asciiLower := List.find?_map ..
      rw [List.map_cons] at telling ⊢
      simp only [telling, reduceCtorEq, if_false]
      cases (word :: words).find? isTelling with
      | none => rfl
      | some first => rfl

section Directives

variable {source : String}

theorem detect_of_kind? {kind : DiagramKind} (found : kind? source.toList = some kind) :
    detect source = .ok kind := by
  rw [detect, found]

/-- A telling directive decides alone. -/
theorem detect_of_firstDirective {before behind : List Char}
    (first : FirstDirective isTelling source.toList before behind) :
    detect source = .ok (.ofDirective (String.ofList (asciiLower (directiveWord behind)))) := by
  have found := find?_directives_eq_some_iff.2 ⟨before, behind, first, rfl⟩
  have opened : directives source.toList ≠ [] := by
    intro empty
    rw [empty] at found
    contradiction
  apply detect_of_kind?
  rw [kind?_eq, if_neg opened, found]

/-- A source has only bare directives if it has some and none tells the kind. -/
theorem onlyBare_iff {source : List Char} :
    OnlyBare source ↔ directives source ≠ [] ∧ (directives source).find? isTelling = none := by
  constructor
  · intro onlyBare
    constructor
    · obtain ⟨before, behind, found⟩ := onlyBare.opened
      exact List.ne_nil_of_mem (mem_directives_iff.2 ⟨before, behind, found, rfl⟩)
    · rw [List.find?_eq_none]
      intro word member
      obtain ⟨before, behind, found, rfl⟩ := mem_directives_iff.1 member
      simp [isTelling, onlyBare.bare before behind found]
  · rintro ⟨opened, silent⟩
    constructor
    · obtain ⟨word, member⟩ := List.exists_mem_of_ne_nil _ opened
      obtain ⟨before, behind, found, -⟩ := mem_directives_iff.1 member
      exact ⟨before, behind, found⟩
    · intro before behind found
      have member := mem_directives_iff.2 ⟨before, behind, found, rfl⟩
      simpa [isTelling] using List.find?_eq_none.1 silent _ member

/-- If no directive tells the kind, it is guessed. -/
theorem detect_of_onlyBare (onlyBare : OnlyBare source.toList) :
    detect source = .ok (guess source.toList) := by
  obtain ⟨opened, silent⟩ := onlyBare_iff.1 onlyBare
  apply detect_of_kind?
  rw [kind?_eq, if_neg opened, silent]

/-- Without a directive there is no diagram. -/
theorem detect_eq_error (none : ∀ before behind, ¬ DirectiveAt source.toList before behind) :
    detect source = .error .missingDirective := by
  rw [detect, kind?_eq, if_pos (directives_eq_nil_iff.2 none)]

/-- One of the rules applies to every source. -/
theorem tells_detect (source : String) : Tells source.toList (detect source) := by
  by_cases opened : ∃ before behind, DirectiveAt source.toList before behind
  · cases found : (directives source.toList).find? isTelling with
    | some word =>
        obtain ⟨before, behind, first, -⟩ := find?_directives_eq_some_iff.1 found
        rw [detect_of_firstDirective first]
        exact .explicit first
    | none =>
        obtain ⟨before, behind, directive⟩ := opened
        have member := mem_directives_iff.2 ⟨before, behind, directive, rfl⟩
        have onlyBare := onlyBare_iff.2 ⟨List.ne_nil_of_mem member, found⟩
        rw [detect_of_onlyBare onlyBare]
        exact .content onlyBare (suggests_guess _)
  · have none : ∀ before behind, ¬ DirectiveAt source.toList before behind :=
      fun before behind directive => opened ⟨before, behind, directive⟩
    rw [detect_eq_error none]
    exact .unopened none

/-- A source with a directive holds a diagram of some kind. -/
theorem detect_of_directiveAt {before behind : List Char}
    (directive : DirectiveAt source.toList before behind) : ∃ kind, detect source = .ok kind := by
  have told := tells_detect source
  cases detected : detect source with
  | ok kind => exact ⟨kind, rfl⟩
  | error fault =>
      rw [detected] at told
      cases told with
      | unopened none => exact absurd directive (none before behind)

/-- What is done with a result does not make it fail. -/
theorem eq_error_of_map_eq_error {ε α β : Type} {result : Except ε α} {change : α → β} {error : ε}
    (failed : result.map change = .error error) : result = .error error := by
  cases result with
  | ok value => contradiction
  | error reason => exact congrArg Except.error (Except.error.inj failed)

/-- A source fails to be read only for want of a directive. -/
theorem eq_missingDirective_of_detect {error : SourceError}
    (failed : detect source = .error error) : error = .missingDirective := by
  have told := tells_detect source
  rw [failed] at told
  cases told with
  | unopened none => rfl

theorem eq_missingDirective_of_parse {error : SourceError}
    (failed : parse source = .error error) : error = .missingDirective :=
  eq_missingDirective_of_detect (eq_error_of_map_eq_error failed)

end Directives

/-- Detection answers what the rules tell, and nothing else. -/
theorem detect_eq_iff_tells {source : String} {answer : Except SourceError DiagramKind} :
    detect source = answer ↔ Tells source.toList answer := by
  constructor
  · rintro rfl
    exact tells_detect source
  · intro told
    cases told with
    | unopened none => exact detect_eq_error none
    | explicit first => exact detect_of_firstDirective first
    | content onlyBare suggests => rw [detect_of_onlyBare onlyBare, suggests.guess_eq]

end DiagramGraph.Detection
