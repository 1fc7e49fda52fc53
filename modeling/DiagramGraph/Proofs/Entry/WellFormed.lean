import DiagramGraph.Proofs.Entry.Blocks
import DiagramGraph.Proofs.Text.Part

/-!
# What a line can make

Whatever a single line makes is well formed: names and ends of relationships are
words, or quotable texts where a name may be quoted, and every free text is
tidy. Each kind of diagram makes elements, members and relationships of its own
sort only.
-/

namespace DiagramGraph

open DiagramGraph.Text

/-! ## Well-formed parts of a model -/

/-- The name of an attribute is a word, and its texts are tidy. -/
structure Attribute.WellFormed (field : Attribute) : Prop where
  name : IsWordRun field.name.toList
  datatype : ∀ text ∈ field.datatype, Tidy text.toList
  defaultValue : ∀ text ∈ field.defaultValue, Tidy text.toList

/-- The name of a method is a word, and its texts are tidy. -/
structure Method.WellFormed (method : Method) : Prop where
  name : IsWordRun method.name.toList
  parameters : ∀ text ∈ method.parameters, Tidy text.toList
  returnType : ∀ text ∈ method.returnType, Tidy text.toList

/-- The name of an element could be quoted, its alias and its literals are words,
its stereotype is tidy, and its members are well formed. -/
structure Element.WellFormed (element : Element) : Prop where
  name : IsQuotable element.name.toList
  aliasName : ∀ text ∈ element.aliasName, IsWordRun text.toList
  stereotype : ∀ text ∈ element.stereotype, Tidy text.toList
  attributes : ∀ field ∈ element.attributes, field.WellFormed
  methods : ∀ method ∈ element.methods, method.WellFormed
  values : ∀ values ∈ element.values, ∀ value ∈ values, IsWordRun value.toList

/-- The ends of a relationship are words, and its texts are tidy. -/
structure Relationship.WellFormed (relationship : Relationship) : Prop where
  source : IsWordRun relationship.source.toList
  target : IsWordRun relationship.target.toList
  label : ∀ text ∈ relationship.label, Tidy text.toList
  message : ∀ text ∈ relationship.message, Tidy text.toList

/-- A text that is read or not has a property if it has it when it is read. -/
theorem forall_mem_map_ofList {read : Option (List Char)} {property : List Char → Prop}
    (holds : ∀ text ∈ read, property text) :
    ∀ text ∈ read.map String.ofList, property text.toList := by
  intro text member
  obtain ⟨chars, found, rfl⟩ := Option.map_eq_some_iff.1 member
  rw [String.toList_ofList]
  exact holds chars found

/-- A label is tidy. -/
theorem tidy_of_mem_label? {text : List Char} (single : '\n' ∉ text) :
    ∀ label ∈ (label? text).map String.ofList, Tidy label.toList :=
  forall_mem_map_ofList fun _ read => tidy_of_label? read single

/-! ## Declarations -/

namespace Declaration

variable {text line keyword : List Char} {declaration : Declaration}

theorem suffix_of_named? (read : named? text = some declaration) (single : '\n' ∉ text) :
    declaration.rest <:+ text := by
  obtain ⟨⟨name, aliasName, rest⟩, named, rfl⟩ := Option.map_eq_some_iff.1 read
  exact (namePart?_eq named single).2.2

theorem wellFormed_element (read : named? text = some declaration) (single : '\n' ∉ text)
    (type : String) : (declaration.element type).WellFormed := by
  obtain ⟨⟨name, aliasName, rest⟩, named, rfl⟩ := Option.map_eq_some_iff.1 read
  obtain ⟨quotable, word, -⟩ := namePart?_eq named single
  exact
    { name := by simpa [element] using quotable
      aliasName := forall_mem_map_ofList word
      stereotype := nofun
      attributes := nofun
      methods := nofun
      values := nofun }

theorem exists_named?_of_read? (read : read? keyword line = some declaration) :
    ∃ rest, rest <:+ line ∧ named? rest = some declaration := by
  obtain ⟨⟨word, rest⟩, leading, read⟩ := Option.bind_eq_some_iff.1 read
  dsimp only at read
  split at read
  · exact ⟨rest, suffix_of_leadingWord? leading, read⟩
  · contradiction

theorem exists_named?_of_readAny? {table : List (String × String)} {type : String}
    (read : readAny? table line = some (type, declaration)) :
    (∃ rest, rest <:+ line ∧ named? rest = some declaration) ∧ type ∈ table.map Prod.snd := by
  obtain ⟨⟨word, rest⟩, leading, read⟩ := Option.bind_eq_some_iff.1 read
  obtain ⟨found, listed, read⟩ := Option.bind_eq_some_iff.1 read
  obtain ⟨declared, named, same⟩ := Option.bind_eq_some_iff.1 read
  cases same
  obtain ⟨front, back, split, -⟩ := List.lookup_eq_some_iff.1 listed
  exact ⟨⟨rest, suffix_of_leadingWord? leading, named⟩, by simp [split]⟩

end Declaration

/-! ## Connectors -/

section Connectors

variable {text rest : List Char}

theorem suffix_of_run? {belongs : Char → Bool} {run : List Char}
    (read : run? belongs text = some (run, rest)) : rest <:+ text :=
  ⟨run, append_of_run? read⟩

theorem AdornedConnector.suffix_of_shaft? {shaft : List Char}
    (read : shaft? text = some (shaft, rest)) : rest <:+ text := by
  unfold shaft? at read
  split at read
  · exact suffix_of_run? read
  · exact suffix_of_run? read
  · contradiction

theorem AdornedConnector.suffix_of_read? {connector : AdornedConnector}
    (read : read? text = some (connector, rest)) : rest <:+ text := by
  obtain ⟨⟨shaft, behind⟩, shaftRead, same⟩ := Option.bind_eq_some_iff.1 read
  cases same
  exact (List.dropWhile_suffix _).trans
    ((suffix_of_shaft? shaftRead).trans (List.dropWhile_suffix _))

theorem CrowsFoot.suffix_of_shaft? {shaft : List Char}
    (read : shaft? text = some (shaft, rest)) : rest <:+ text := by
  unfold shaft? at read
  split at read
  · cases read
    exact ⟨['-', '-'], rfl⟩
  · cases read
    exact ⟨['.', '.'], rfl⟩
  · contradiction

theorem CrowsFoot.suffix_of_read? {connector : List Char}
    (read : read? text = some (connector, rest)) : rest <:+ text := by
  obtain ⟨⟨shaft, behind⟩, shaftRead, others⟩ := Option.bind_eq_some_iff.1 read
  dsimp only at others
  split at others
  · cases others
    exact (List.dropWhile_suffix _).trans
      ((suffix_of_shaft? shaftRead).trans (List.dropWhile_suffix _))
  · contradiction

theorem suffix_openHead (text : List Char) : (openHead text).2 <:+ text := by
  unfold openHead
  split
  · exact List.suffix_cons _ _
  · exact List.suffix_refl _

theorem suffix_closeHead (text : List Char) : (closeHead text).2 <:+ text := by
  unfold closeHead
  split
  · exact List.suffix_cons _ _
  · exact List.suffix_refl _

theorem Arrow.suffix_of_read? {arrow : List Char} (read : read? text = some (arrow, rest)) :
    rest <:+ text := by
  have opened := suffix_openHead text
  unfold read? at read
  dsimp only at read
  split at read
  · next behind shape =>
      obtain ⟨⟨parts, remaining⟩, run, same⟩ := Option.map_eq_some_iff.1 read
      cases same
      rw [shape] at opened
      exact (suffix_of_run? run).trans ((List.suffix_cons '-' behind).trans opened)
  · contradiction

theorem Link.suffix_of_shaft? {shaft : List Char} (read : shaft? text = some (shaft, rest)) :
    rest <:+ text := by
  unfold shaft? at read
  split at read
  · exact suffix_of_run? read
  · exact suffix_of_run? read
  · contradiction

theorem Link.suffix_of_read? {link : List Char} (read : read? text = some (link, rest)) :
    rest <:+ text := by
  obtain ⟨⟨shaft, behind⟩, shaftRead, same⟩ := Option.bind_eq_some_iff.1 read
  cases same
  exact (suffix_closeHead behind).trans
    ((suffix_of_shaft? shaftRead).trans (suffix_openHead text))

end Connectors

/-! ## Lines of class diagrams -/

namespace ClassLine

variable {text line rest found : List Char}

theorem suffix_of_classHead? {isAbstract : Bool}
    (read : classHead? line = some (isAbstract, rest)) : rest <:+ line := by
  obtain ⟨⟨word, behind⟩, leading, read⟩ := Option.bind_eq_some_iff.1 read
  have suffix := suffix_of_leadingWord? leading
  dsimp only at read
  split at read
  · cases read
    exact suffix
  · split at read
    · obtain ⟨⟨next, remaining⟩, further, read⟩ := Option.bind_eq_some_iff.1 read
      dsimp only at read
      split at read
      · cases read
        exact (suffix_of_leadingWord? further).trans suffix
      · contradiction
    · contradiction

theorem untilClosing?_subset {inner : List Char} (read : untilClosing? text = some inner) :
    inner ⊆ text := by
  fun_induction untilClosing? text generalizing inner with
  | case1 => cases read; exact List.nil_subset _
  | case2 char rest _ ih =>
      obtain ⟨more, later, rfl⟩ := Option.map_eq_some_iff.1 read
      exact List.cons_subset_cons char (ih later)
  | case3 => contradiction

theorem tidy_of_stereotype? (read : stereotype? text = some found) (single : '\n' ∉ text) :
    Tidy found := by
  unfold stereotype? at read
  split at read
  · next first behind shape =>
      obtain ⟨inner, closed, trimmed⟩ := Option.bind_eq_some_iff.1 read
      have opened := single_of_suffix (suffix_behind_mark shape) single
      refine tidy_of_nonBlank? trimmed fun member => opened ?_
      have inside := List.cons_subset_cons first (untilClosing?_subset closed) member
      simp [List.mem_cons.1 inside]
  · contradiction

theorem suffix_marker (text : List Char) : (marker text).2 <:+ text := by
  unfold marker
  split
  · split
    · exact List.suffix_cons _ _
    · exact List.suffix_refl _
  · exact List.suffix_refl _

theorem suffix_modifier (text : List Char) : (modifier text).2 <:+ text := by
  unfold modifier
  split
  · next found behind shape =>
      obtain ⟨⟨written, listed⟩, -, opened⟩ := List.exists_of_findSome?_eq_some shape
      obtain ⟨remaining, behindMark, same⟩ := Option.map_eq_some_iff.1 opened
      cases same
      rw [after?_eq_some_iff] at behindMark
      exact (suffix_of_trimStart behind).trans ⟨written, behindMark.symm⟩
  · exact List.suffix_refl _

theorem suffix_memberHead (line : List Char) : (memberHead line).2.2 <:+ line :=
  (suffix_marker _).trans ((suffix_modifier _).trans (suffix_marker line))

theorem suffix_of_afterColon? (read : afterColon? text = some rest) : rest <:+ text := by
  unfold afterColon? at read
  split at read
  · next behind shape =>
      cases read
      exact (suffix_of_trimStart behind).trans (suffix_behind_mark shape)
  · contradiction

/-- The arguments of a type stand between angle brackets, if there are any. -/
theorem typeArguments_eq (single : '\n' ∉ text) :
    ((typeArguments text).1 = [] ∨ Tidy (typeArguments text).1) ∧
      (typeArguments text).2 <:+ text := by
  unfold typeArguments
  split
  · next behind =>
      have singleBehind := single_of_suffix (List.suffix_cons '<' behind) single
      split
      · next inner remaining read =>
          exact ⟨.inr (tidy_of_upTo? read singleBehind (by decide) (by decide)),
            (suffix_of_upTo? read).trans (List.suffix_cons '<' behind)⟩
      · exact ⟨.inl rfl, List.suffix_refl _⟩
  · exact ⟨.inl rfl, List.suffix_refl _⟩

theorem arrayMark_eq (text : List Char) :
    ((arrayMark text).1 = [] ∨ Tidy (arrayMark text).1) ∧ (arrayMark text).2 <:+ text := by
  unfold arrayMark
  split
  · next behind =>
      have tidy : Tidy ['[', ']'] :=
        tidy_of_forall (by decide)
          (List.forall_mem_cons.2 ⟨by decide, List.forall_mem_singleton.2 (by decide)⟩)
      exact ⟨.inr tidy, ⟨['[', ']'], rfl⟩⟩
  · exact ⟨.inl rfl, List.suffix_refl _⟩

theorem type?_eq (read : type? text = some (found, rest)) (single : '\n' ∉ text) :
    Tidy found ∧ rest <:+ text := by
  obtain ⟨⟨path, behind⟩, run, same⟩ := Option.bind_eq_some_iff.1 read
  have behindPath := suffix_of_run? run
  obtain ⟨tidyArguments, behindArguments⟩ :=
    typeArguments_eq (single_of_suffix behindPath single)
  obtain ⟨tidyMark, behindMark⟩ := arrayMark_eq (typeArguments behind).2
  cases same
  exact ⟨((tidy_of_path run).append_optional tidyArguments).append_optional tidyMark,
    behindMark.trans (behindArguments.trans behindPath)⟩

theorem tidy_of_default? (read : default? text = some found) (single : '\n' ∉ text) :
    Tidy found := by
  unfold default? at read
  split at read
  · next shape => exact tidy_of_nonBlank? read (single_of_suffix (suffix_behind_mark shape) single)
  · contradiction

theorem parameters?_eq (read : parameters? text = some (found, rest)) :
    found ⊆ text ∧ rest <:+ text := by
  unfold parameters? at read
  split at read
  · next behind shape =>
      have suffix := suffix_behind_mark shape
      refine ⟨?_, (suffix_of_upTo? read).trans suffix⟩
      obtain ⟨-, rfl⟩ := upTo?_eq read
      exact fun char member => suffix.subset (List.mem_append_left _ member)
  · contradiction

/-! ### What they make -/

theorem wellFormed_of_class? {declared : Element} (read : class? line = some declared)
    (single : '\n' ∉ line) : declared.WellFormed := by
  obtain ⟨⟨isAbstract, behind⟩, head, read⟩ := Option.bind_eq_some_iff.1 read
  obtain ⟨declaration, named, same⟩ := Option.bind_eq_some_iff.1 read
  have singleBehind := single_of_suffix (suffix_of_classHead? head) single
  have singleRest := single_of_suffix (Declaration.suffix_of_named? named singleBehind) singleBehind
  have plain := Declaration.wellFormed_element named singleBehind "Class"
  cases same
  exact { plain with
    stereotype := forall_mem_map_ofList fun found read => tidy_of_stereotype? read singleRest }

theorem wellFormed_of_declaration? {declared : Element}
    (read : declaration? line = some declared) (single : '\n' ∉ line) : declared.WellFormed := by
  simp only [declaration?, Option.orElse_eq_some] at read
  rcases read with isClass | ⟨-, isInterface | ⟨-, isEnum⟩⟩
  · exact wellFormed_of_class? isClass single
  · obtain ⟨declaration, read, rfl⟩ := Option.map_eq_some_iff.1 isInterface
    obtain ⟨rest, suffix, named⟩ := Declaration.exists_named?_of_read? read
    exact Declaration.wellFormed_element named (single_of_suffix suffix single) "Interface"
  · obtain ⟨declaration, read, rfl⟩ := Option.map_eq_some_iff.1 isEnum
    obtain ⟨rest, suffix, named⟩ := Declaration.exists_named?_of_read? read
    have plain := Declaration.wellFormed_element named (single_of_suffix suffix single) "Enum"
    refine { plain with values := ?_ }
    rintro values ⟨⟩
    exact List.forall_mem_nil _

theorem suffix_of_skipQuoted? (read : skipQuoted? text = some rest) : rest <:+ text := by
  unfold skipQuoted? at read
  split at read
  · next opened =>
      obtain ⟨⟨inner, behind⟩, closed, gap⟩ := Option.bind_eq_some_iff.1 read
      exact (suffix_of_gap? gap).trans
        ((suffix_of_upTo? closed).trans (List.suffix_cons '"' opened))
  · cases read
    exact List.suffix_refl _

theorem wellFormed_of_relationship? {stated : Relationship}
    (states : relationship? line = some stated) (single : '\n' ∉ line) : stated.WellFormed := by
  obtain ⟨parts, read, rfl⟩ := Option.map_eq_some_iff.1 states
  simp only [relationshipParts?, Option.bind_eq_bind, Option.bind_eq_some_iff, Option.pure_def,
    Option.some.injEq, Prod.exists] at read
  obtain ⟨source, behindSource, leading, behindQuoted, quoted, connector, behindConnector, joined,
    behindGap, gap, behindSecond, second, target, behindTarget, word, rfl⟩ := read
  have suffix : behindTarget <:+ line :=
    calc
      behindTarget <:+ behindSecond := suffix_of_word? word
      _ <:+ behindGap := suffix_of_skipQuoted? second
      _ <:+ behindConnector := suffix_of_gap? gap
      _ <:+ behindQuoted := AdornedConnector.suffix_of_read? joined
      _ <:+ behindSource := suffix_of_skipQuoted? quoted
      _ <:+ line := suffix_of_leadingWord? leading
  exact
    { source := by simpa using isWordRun_of_leadingWord? leading
      target := by simpa using isWordRun_of_word? word
      label := tidy_of_mem_label? (single_of_suffix suffix single)
      message := by rintro text ⟨⟩ }

theorem wellFormed_of_attribute? {field : Attribute} (read : attribute? line = some field)
    (single : '\n' ∉ line) : field.WellFormed := by
  simp only [attribute?, Option.bind_eq_bind, Option.bind_eq_some_iff, Option.pure_def,
    Option.some.injEq, Prod.exists] at read
  obtain ⟨name, behindName, word, behindColon, colon, type, behindType, typed, rfl⟩ := read
  have suffix : behindColon <:+ line :=
    (suffix_of_afterColon? colon).trans ((suffix_of_word? word).trans (suffix_memberHead line))
  have singleColon := single_of_suffix suffix single
  obtain ⟨tidy, further⟩ := type?_eq typed singleColon
  exact
    { name := by simpa using isWordRun_of_word? word
      datatype := by simpa using tidy
      defaultValue := forall_mem_map_ofList fun found read =>
        tidy_of_default? read (single_of_suffix further singleColon) }

theorem wellFormed_of_method? {method : Method} (read : method? line = some method)
    (single : '\n' ∉ line) : method.WellFormed := by
  simp only [method?, Option.bind_eq_bind, Option.bind_eq_some_iff, Option.pure_def,
    Option.some.injEq, Prod.exists] at read
  obtain ⟨name, behindName, word, parameters, behindParameters, opened, rfl⟩ := read
  have suffix := (suffix_of_word? word).trans (suffix_memberHead line)
  obtain ⟨inside, further⟩ := parameters?_eq opened
  have singleName := single_of_suffix suffix single
  refine ⟨by simpa using isWordRun_of_word? word, ?_, ?_⟩
  · exact forall_mem_map_ofList fun found read =>
      tidy_of_nonBlank? read fun member => singleName (inside member)
  · intro text member
    obtain ⟨⟨type, rest⟩, read, rfl⟩ := Option.map_eq_some_iff.1 member
    obtain ⟨behindColon, colon, typed⟩ := Option.bind_eq_some_iff.1 read
    have behind := (suffix_of_afterColon? colon).trans further
    simpa using (type?_eq typed (single_of_suffix behind singleName)).1

theorem isWordRun_of_literal? (read : literal? line = some found) : IsWordRun found := by
  obtain ⟨⟨name, rest⟩, word, read⟩ := Option.bind_eq_some_iff.1 read
  have run := isWordRun_of_word? word
  dsimp only at read
  split at read
  · cases read
    exact run
  · cases read
    exact run
  · contradiction

end ClassLine

/-! ## Lines of entity diagrams -/

namespace EntityLine

variable {text line : List Char}

theorem wellFormed_of_entity? {declared : Element} (declares : entity? line = some declared)
    (single : '\n' ∉ line) : declared.WellFormed := by
  obtain ⟨declaration, read, rfl⟩ := Option.map_eq_some_iff.1 declares
  obtain ⟨rest, suffix, named⟩ := Declaration.exists_named?_of_read? read
  exact Declaration.wellFormed_element named (single_of_suffix suffix single) "Entity"

theorem wellFormed_of_relation? {stated : Relationship} (read : relation? line = some stated)
    (single : '\n' ∉ line) : stated.WellFormed := by
  obtain ⟨start, within, read⟩ := exists_suffix_of_firstAtWord read
  simp only [relationAt?, Option.bind_eq_bind, Option.bind_eq_some_iff, Option.pure_def,
    Option.some.injEq, Prod.exists] at read
  obtain ⟨source, behindSource, leading, connector, behindConnector, joined, behindGap, gap,
    target, behindTarget, word, rfl⟩ := read
  have suffix : behindTarget <:+ line :=
    calc
      behindTarget <:+ behindGap := suffix_of_word? word
      _ <:+ behindConnector := suffix_of_gap? gap
      _ <:+ behindSource := CrowsFoot.suffix_of_read? joined
      _ <:+ start := suffix_of_leadingWord? leading
      _ <:+ line := within
  exact
    { source := by simpa using isWordRun_of_leadingWord? leading
      target := by simpa using isWordRun_of_word? word
      label := tidy_of_mem_label? (single_of_suffix suffix single)
      message := nofun }

theorem tidy_typeArguments (single : '\n' ∉ text) :
    typeArguments text = [] ∨ Tidy (typeArguments text) := by
  unfold typeArguments
  split
  · next behind =>
      have singleBehind := single_of_suffix (List.suffix_cons '(' behind) single
      split
      · next read => exact .inr (tidy_of_upTo? read singleBehind (by decide) (by decide))
      · exact .inl rfl
  · exact .inl rfl

theorem tidy_of_type? {found : List Char} (read : type? text = some found)
    (single : '\n' ∉ text) : Tidy found := by
  obtain ⟨⟨path, rest⟩, run, rfl⟩ := Option.map_eq_some_iff.1 read
  exact (tidy_of_path run).append_optional
    (tidy_typeArguments (single_of_suffix (suffix_of_run? run) single))

theorem suffix_skipStar (text : List Char) : skipStar text <:+ text := by
  unfold skipStar
  split
  · exact List.suffix_cons _ _
  · exact List.suffix_refl _

theorem wellFormed_of_attribute? {field : Attribute} (read : attribute? line = some field)
    (single : '\n' ∉ line) : field.WellFormed := by
  obtain ⟨⟨name, behindName⟩, word, read⟩ := Option.bind_eq_some_iff.1 read
  have suffix : behindName <:+ line :=
    (suffix_of_word? word).trans ((suffix_of_trimStart _).trans (suffix_skipStar line))
  dsimp only at read
  split at read
  · next behindColon shape =>
      obtain ⟨type, typed, same⟩ := Option.bind_eq_some_iff.1 read
      cases same
      have behind : trimStart behindColon <:+ line :=
        calc
          trimStart behindColon <:+ behindColon := suffix_of_trimStart behindColon
          _ <:+ behindName := suffix_behind_mark shape
          _ <:+ line := suffix
      exact
        { name := by simpa using isWordRun_of_word? word
          datatype := by simpa using tidy_of_type? typed (single_of_suffix behind single)
          defaultValue := nofun }
  · contradiction

end EntityLine

/-! ## Lines of other diagrams -/

section Others

variable {line : List Char}

theorem Declaration.wellFormed_of_readAny? {table : List (String × String)} {type : String}
    {declaration : Declaration} (read : readAny? table line = some (type, declaration))
    (single : '\n' ∉ line) : (declaration.element type).WellFormed := by
  obtain ⟨⟨rest, suffix, named⟩, -⟩ := exists_named?_of_readAny? read
  exact wellFormed_element named (single_of_suffix suffix single) type

theorem SequenceLine.wellFormed_of_participant? {declared : Element}
    (declares : participant? line = some declared) (single : '\n' ∉ line) :
    declared.WellFormed := by
  obtain ⟨⟨type, declaration⟩, read, rfl⟩ := Option.map_eq_some_iff.1 declares
  exact Declaration.wellFormed_of_readAny? read single

theorem SequenceLine.wellFormed_of_message? {stated : Relationship}
    (read : message? line = some stated) (single : '\n' ∉ line) : stated.WellFormed := by
  obtain ⟨start, within, read⟩ := exists_suffix_of_firstAtWord read
  simp only [messageAt?, Option.bind_eq_bind, Option.bind_eq_some_iff, Option.pure_def,
    Option.some.injEq, Prod.exists] at read
  obtain ⟨source, behindSource, first, arrow, behindArrow, joined, target, behindTarget, second,
    rfl⟩ := read
  have suffix : behindTarget <:+ line :=
    calc
      behindTarget <:+ trimStart behindArrow := suffix_of_word? second
      _ <:+ behindArrow := suffix_of_trimStart behindArrow
      _ <:+ trimStart behindSource := Arrow.suffix_of_read? joined
      _ <:+ behindSource := suffix_of_trimStart behindSource
      _ <:+ start := suffix_of_word? first
      _ <:+ line := within
  exact
    { source := by simpa using isWordRun_of_word? first
      target := by simpa using isWordRun_of_word? second
      label := nofun
      message := tidy_of_mem_label? (single_of_suffix suffix single) }

theorem UseCaseLine.wellFormed_of_declaration? {declared : Element}
    (declares : declaration? line = some declared) (single : '\n' ∉ line) :
    declared.WellFormed := by
  obtain ⟨⟨type, declaration⟩, read, rfl⟩ := Option.map_eq_some_iff.1 declares
  exact Declaration.wellFormed_of_readAny? read single

theorem UseCaseLine.wellFormed_of_link? {stated : Relationship} (read : link? line = some stated)
    (single : '\n' ∉ line) : stated.WellFormed := by
  obtain ⟨start, within, read⟩ := exists_suffix_of_firstAtWord read
  simp only [linkAt?, Option.bind_eq_bind, Option.bind_eq_some_iff, Option.pure_def,
    Option.some.injEq, Prod.exists] at read
  obtain ⟨source, behindSource, leading, link, behindLink, joined, behindGap, gap, target,
    behindTarget, word, rfl⟩ := read
  have suffix : behindTarget <:+ line :=
    calc
      behindTarget <:+ behindGap := suffix_of_word? word
      _ <:+ behindLink := suffix_of_gap? gap
      _ <:+ behindSource := Link.suffix_of_read? joined
      _ <:+ start := suffix_of_leadingWord? leading
      _ <:+ line := within
  exact
    { source := by simpa using isWordRun_of_leadingWord? leading
      target := by simpa using isWordRun_of_word? word
      label := tidy_of_mem_label? (single_of_suffix suffix single)
      message := nofun }

theorem PairLine.wellFormed_of_element? {declared : Element}
    (read : element? line = some declared) (single : '\n' ∉ line) : declared.WellFormed := by
  obtain ⟨⟨word, behindWord⟩, leading, read⟩ := Option.bind_eq_some_iff.1 read
  obtain ⟨⟨name, behindName⟩, named, same⟩ := Option.bind_eq_some_iff.1 read
  have singleBehind := single_of_suffix (suffix_of_leadingWord? leading) single
  cases same
  exact
    { name := by simpa using (name?_eq named singleBehind).1
      aliasName := nofun
      stereotype := nofun
      attributes := nofun
      methods := nofun
      values := nofun }

end Others

end DiagramGraph
