import DiagramGraph.Proofs.Detection.Lines

/-!
# Remarks in a source

A remark is not a line of content, so it adds nothing to a model and takes
nothing away. But detection looks at the whole text, remarks included: a remark
can change what a source is read as, and does so only in that way.
-/

namespace DiagramGraph

open DiagramGraph.Text DiagramGraph.Detection

/-- A line that begins with an apostrophe once it is trimmed. -/
structure IsRemark (line : List Char) : Prop where
  single : '\n' ∉ line
  marked : (trim line).head? = some '\''

/-- The source that has a line between others. -/
def withLine (before : List (List Char)) (line : List Char) (after : List (List Char)) : String :=
  String.ofList (joined (before ++ line :: after))

/-- Neither arrows nor announcements come or go with a line: it has none, it does
not end in a keyword that would announce a word on a later line, and it does not
separate such a keyword from its word. -/
structure Silent (before : List (List Char)) (line : List Char) (after : List (List Char)) :
    Prop where
  arrowless : ¬ ContainsArrow line
  unannounced : ∀ keyword ∈ tellingKeywords, ¬ Announced keyword.1 line
  unjoined : ∀ keyword ∈ tellingKeywords, Pending keyword.1 line → ¬ WordAhead (joined after)
  unbroken : ∀ keyword ∈ tellingKeywords,
    Pending keyword.1 (joined before) → ¬ WordAhead (joined after)

/-- Detection takes no notice of a line: it has no directive, and it is silent if
the others leave the kind open. -/
structure Unnoticed (before : List (List Char)) (line : List Char) (after : List (List Char)) :
    Prop where
  undirected : ∀ front behind, ¬ DirectiveAt line front behind
  silent : OnlyBare (joined (before ++ after)) → Silent before line after

/-! ## Models -/

section Models

variable {source : String} {before after : List (List Char)} {remark : List Char}

theorem IsRemark.isContent (isRemark : IsRemark remark) : isContent (trim remark) = false := by
  obtain ⟨rest, shape⟩ := List.head?_eq_some_iff.1 isRemark.marked
  rw [shape]
  rfl

theorem lines_withLine (cut : lines source.toList = before ++ after) (single : '\n' ∉ remark) :
    lines (withLine before remark after).toList = before ++ remark :: after := by
  have others : ∀ line ∈ before ++ after, '\n' ∉ line := by
    rw [← cut]
    exact separator_notMem_of_mem_pieces '\n' source.toList
  rw [withLine, String.toList_ofList]
  apply lines_joined
  · simp
  · simp only [List.forall_mem_append, List.forall_mem_cons] at others ⊢
    exact ⟨others.1, single, others.2⟩

/-- A remark is no content, wherever it stands. -/
theorem contentLines_withRemark (cut : lines source.toList = before ++ after)
    (isRemark : IsRemark remark) :
    contentLines (withLine before remark after).toList = contentLines source.toList := by
  rw [contentLines, contentLines, lines_withLine cut isRemark.single, cut]
  simp [isRemark.isContent]

/-- Whatever kind a source is read as, a remark does not change its model. -/
theorem ofSource_withRemark (cut : lines source.toList = before ++ after)
    (isRemark : IsRemark remark) (kind : DiagramKind) :
    Model.ofSource kind (withLine before remark after) = Model.ofSource kind source := by
  rw [Model.ofSource, Model.ofSource, entries, entries, contentLines_withRemark cut isRemark]

/-- The kind that is detected is that of the model. -/
theorem detect_eq_map_kind (source : String) : detect source = (parse source).map Model.kind := by
  rw [parse]
  cases detect source with
  | error problem => rfl
  | ok kind => rfl

/-- If the kind decides about the model, it is all that can differ. -/
theorem parse_eq_iff_detect_eq {other : String}
    (models : ∀ kind, Model.ofSource kind other = Model.ofSource kind source) :
    parse other = parse source ↔ detect other = detect source := by
  constructor
  · intro same
    rw [detect_eq_map_kind, detect_eq_map_kind, same]
  · intro same
    rw [parse, parse, same]
    exact congrArg (fun ofKind => (detect source).map ofKind) (funext models)

end Models

/-! ## Detection -/

section Detection

variable {before after : List (List Char)} {line : List Char}

/-- A line without directive does not change the directives of a text. -/
theorem directives_withLine (undirected : ∀ front behind, ¬ DirectiveAt line front behind) :
    directives (joined (before ++ line :: after)) = directives (joined (before ++ after)) := by
  have behind : directives (joined (line :: after)) = directives (joined after) := by
    have split := directives_joined_append [line] after
    rwa [List.singleton_append, joined_singleton, directives_eq_nil_iff.2 undirected,
      List.nil_append] at split
  rw [directives_joined_append, behind, directives_joined_append]

theorem containsArrow_withLine (arrowless : ¬ ContainsArrow line) :
    ContainsArrow (joined (before ++ line :: after)) ↔
      ContainsArrow (joined (before ++ after)) := by
  have behind := containsArrow_joined_append_iff [line] after
  rw [List.singleton_append, joined_singleton] at behind
  rw [containsArrow_joined_append_iff, containsArrow_joined_append_iff, behind]
  simp [arrowless]

/-- Nothing is announced on a remark, and no announcement goes over it. -/
theorem announced_withRemark {keyword : List Char} (isRemark : IsRemark line)
    (nonempty : keyword ≠ []) (plain : '\n' ∉ keyword) (unannounced : ¬ Announced keyword line)
    (unjoined : Pending keyword line → ¬ WordAhead (joined after))
    (unbroken : Pending keyword (joined before) → ¬ WordAhead (joined after)) :
    Announced keyword (joined (before ++ line :: after)) ↔
      Announced keyword (joined (before ++ after)) := by
  have hidden : ¬ WordAhead (joined (line :: after)) := by
    rw [joined_cons]
    exact not_wordAhead_append isRemark.marked (by decide)
  have behind : Announced keyword (joined (line :: after)) ↔ Announced keyword (joined after) := by
    have split := announced_joined_append_iff [line] after nonempty plain
    rw [List.singleton_append, joined_singleton] at split
    have noJoin : ¬ (Pending keyword line ∧ WordAhead (joined after)) := fun both =>
      unjoined both.1 both.2
    simp only [split, unannounced, noJoin, false_or]
  have noBreak : ¬ (Pending keyword (joined before) ∧ WordAhead (joined after)) := fun both =>
    unbroken both.1 both.2
  rw [announced_joined_append_iff _ _ nonempty plain,
    announced_joined_append_iff _ _ nonempty plain, behind]
  simp only [hidden, noBreak, and_false, false_or]

theorem Silent.guess_eq (silent : Silent before line after) (isRemark : IsRemark line) :
    guess (joined (before ++ line :: after)) = guess (joined (before ++ after)) := by
  have words : ∀ keyword ∈ tellingKeywords, keyword.1 ≠ [] ∧ '\n' ∉ keyword.1 := by decide
  apply guess_congr
  · intro keyword member
    obtain ⟨nonempty, plain⟩ := words keyword member
    exact announced_withRemark isRemark nonempty plain (silent.unannounced keyword member)
      (silent.unjoined keyword member) (silent.unbroken keyword member)
  · exact containsArrow_withLine silent.arrowless

/-- A remark of which detection takes no notice does not change what is
detected. -/
theorem Unnoticed.kind?_eq (unnoticed : Unnoticed before line after) (isRemark : IsRemark line) :
    kind? (joined (before ++ line :: after)) = kind? (joined (before ++ after)) := by
  rw [Detection.kind?_eq, Detection.kind?_eq, directives_withLine unnoticed.undirected]
  by_cases onlyBare : OnlyBare (joined (before ++ after))
  · rw [(unnoticed.silent onlyBare).guess_eq isRemark]
  · split
    · rfl
    · next opened =>
        cases found : (directives (joined (before ++ after))).find? isTelling with
        | some word => rfl
        | none => exact absurd (onlyBare_iff.2 ⟨opened, found⟩) onlyBare

end Detection

/-! ## The main statement -/

/-- A remark does not change the model of any kind that a source is read as, so
it changes what the source is parsed as only by changing the detected kind; and it
does not change that if detection takes no notice of it. -/
theorem parse_withRemark {source : String} {before after : List (List Char)} {remark : List Char}
    (cut : lines source.toList = before ++ after) (isRemark : IsRemark remark) :
    (∀ kind,
        Model.ofSource kind (withLine before remark after) = Model.ofSource kind source) ∧
      (parse (withLine before remark after) = parse source ↔
        detect (withLine before remark after) = detect source) ∧
      (Unnoticed before remark after →
        parse (withLine before remark after) = parse source) := by
  have models := ofSource_withRemark cut isRemark
  have decided := parse_eq_iff_detect_eq models
  refine ⟨models, decided, fun unnoticed => decided.2 ?_⟩
  have text : source.toList = joined (before ++ after) := by rw [← cut, joined_lines]
  rw [detect, detect, text, withLine, String.toList_ofList, unnoticed.kind?_eq isRemark]

/-- A class with nothing else. -/
def accountSource : String :=
  "@startuml\nclass Account\n@enduml"

/-- A remark about the class. -/
def accountRemark : List Char :=
  "  ' one for every customer, see below".toList

theorem parse_accountSource_withRemark :
    lines accountSource.toList =
        ["@startuml".toList, "class Account".toList] ++ ["@enduml".toList] ∧
      IsRemark accountRemark ∧
      Unnoticed ["@startuml".toList, "class Account".toList] accountRemark ["@enduml".toList] ∧
      parse (withLine ["@startuml".toList, "class Account".toList] accountRemark
        ["@enduml".toList]) = parse accountSource := by
  have cut : lines accountSource.toList =
      ["@startuml".toList, "class Account".toList] ++ ["@enduml".toList] := by decide +kernel
  have isRemark : IsRemark accountRemark := ⟨by decide +kernel, by decide +kernel⟩
  have closing : ¬ WordAhead (joined ["@enduml".toList]) := by
    rw [joined_singleton, ← List.append_nil "@enduml".toList]
    exact not_wordAhead_append (by decide +kernel : _ = some '@') (by decide)
  have unannounced : ∀ keyword ∈ tellingKeywords,
      keyword.1 ≠ [] ∧ announces keyword.1 false accountRemark = false := by decide +kernel
  have unnoticed : Unnoticed ["@startuml".toList, "class Account".toList] accountRemark
      ["@enduml".toList] := by
    refine ⟨directives_eq_nil_iff.1 (by decide +kernel), fun onlyBare => ⟨?_, ?_, ?_, ?_⟩⟩
    · rw [← hasArrow_iff]
      decide +kernel
    · intro keyword member
      obtain ⟨nonempty, silent⟩ := unannounced keyword member
      rw [← announces_iff_announced nonempty, silent]
      decide
    · exact fun keyword member pending => closing
    · exact fun keyword member pending => closing
  exact ⟨cut, isRemark, unnoticed, (parse_withRemark cut isRemark).2.2 unnoticed⟩

/-- But detection does take notice of some remarks: one that looks like a class
makes a class diagram of an empty source. -/
theorem exists_remark_changing_parse :
    ¬ ∀ (source : String) (before after : List (List Char)) (remark : List Char),
      lines source.toList = before ++ after → IsRemark remark →
        parse (withLine before remark after) = parse source := by
  intro inert
  have cut : lines "@startuml\n@enduml".toList = ["@startuml".toList] ++ ["@enduml".toList] := by
    decide +kernel
  have isRemark : IsRemark "' class Foo".toList := ⟨by decide +kernel, by decide +kernel⟩
  have same := (parse_eq_iff_detect_eq (ofSource_withRemark cut isRemark)).1
    (inert _ _ _ _ cut isRemark)
  have drawn : detect (withLine ["@startuml".toList] "' class Foo".toList ["@enduml".toList]) =
      .ok .classes := detect_of_kind? (by decide +kernel)
  have empty : detect "@startuml\n@enduml" = .ok .generic := detect_of_kind? (by decide +kernel)
  rw [drawn, empty] at same
  cases same

end DiagramGraph
