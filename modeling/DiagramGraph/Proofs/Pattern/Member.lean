import DiagramGraph.Proofs.Pattern.Connector
import DiagramGraph.Proofs.Pattern.Rule

/-!
# Members as patterns

Attributes, methods and literals, as patterns. The marker of a visibility may stand on
either side of a modifier, so there are two ways to read a marker that no modifier
follows; the first of them counts, and nothing is gained by the second one.
-/

namespace DiagramGraph

open DiagramGraph.Text DiagramGraph.Pattern

namespace Pattern

/-! ## Types -/

/-- Anything between two marks, with these. -/
def enclosed (opening closing : Char) : Pattern :=
  inOrder [mark opening, many (isOther closing), mark closing]

/-- Anything between two marks, with these. -/
def enclosed? (opening closing : Char) : Reader := fun text =>
  (after? [opening] text).bind fun rest =>
    (upTo? closing rest).map fun read => (opening :: read.1 ++ [closing], read.2)

theorem readsLast_enclosed (opening closing : Char) :
    (enclosed opening closing).ReadsLast (enclosed? opening closing) where
  at?_eq := by
    intro text
    rw [at?_eq_first, enclosed, first_mark_cons, enclosed?, Option.map_bind]
    refine Option.bind_congr fun rest _ => ?_
    rw [first_upTo_cons, Function.comp_apply, Option.map_map, Option.map_eq_bind]
    exact Option.bind_congr fun read _ => first_inOrder_nil
  splits := by
    intro text run rest read
    obtain ⟨inside, opened, read⟩ := Option.bind_eq_some_iff.1 read
    obtain ⟨found, closed, same⟩ := Option.map_eq_some_iff.1 read
    cases same
    rw [after?_eq_some_iff.1 opened, (upTo?_eq closed).2]
    simp

/-- A dotted path and what may follow it. -/
def pathType (further : List Pattern) : Pattern :=
  inOrder (run isPathChar :: further)

/-- A type of a member of a class: `[\w.]+(?:<[^>]*>)?(?:\[\])?`. -/
def memberType : Pattern :=
  pathType [optional (enclosed '<' '>'), optional (literal ['[', ']'])]

/-- A type of an attribute of an entity: `[\w.]+(?:\([^)]*\))?`. -/
def entityType : Pattern :=
  pathType [optional (enclosed '(' ')')]

theorem typeArguments_eq (text : List Char) :
    ClassLine.typeArguments text = (enclosed? '<' '>' text).getD ([], text) := by
  cases text with
  | nil => rfl
  | cons char rest =>
      by_cases opens : char = '<'
      · subst opens
        cases closed : upTo? '>' rest <;> simp [ClassLine.typeArguments, enclosed?, after?, closed]
      · simp [ClassLine.typeArguments, enclosed?, after?, opens]

theorem arrayMark_eq (text : List Char) :
    ClassLine.arrayMark text =
      ((after? ['[', ']'] text).map fun rest => (['[', ']'], rest)).getD ([], text) := by
  unfold ClassLine.arrayMark
  split
  · rfl
  · next other =>
      have unmarked : after? ['[', ']'] text = none :=
        Option.eq_none_iff_forall_ne_some.2 fun rest opened =>
          other rest (after?_eq_some_iff.1 opened)
      rw [unmarked]
      rfl

theorem readsLast_memberType : memberType.ReadsLast ClassLine.type? := by
  have array := ((reads_literal ['[', ']']).last.optional).cons total_nil readsLast_nil
  have totalArray := total_cons (total_optional (literal ['[', ']'])) total_nil
  have arguments := (readsLast_enclosed '<' '>').optional.cons totalArray array
  have totalArguments := total_cons (total_optional (enclosed '<' '>')) totalArray
  refine ((readsLast_run isPathChar).cons totalArguments arguments).congr fun text => ?_
  rw [both, ClassLine.type?, Option.bind_eq_bind]
  refine Option.bind_congr fun path _ => ?_
  simp [both, typeArguments_eq, arrayMark_eq]

/-- The type of an attribute of an entity, and what is left behind it. -/
def entityType? : Reader :=
  both (run? isPathChar)
    (both (fun text => some ((enclosed? '(' ')' text).getD ([], text))) fun text => some ([], text))

theorem readsLast_entityType : entityType.ReadsLast entityType? := by
  have arguments := (readsLast_enclosed '(' ')').optional.cons total_nil readsLast_nil
  exact (readsLast_run isPathChar).cons (total_cons (total_optional _) total_nil) arguments

theorem entityArguments_eq (text : List Char) :
    EntityLine.typeArguments text = ((enclosed? '(' ')' text).getD ([], text)).1 := by
  cases text with
  | nil => rfl
  | cons char rest =>
      by_cases opens : char = '('
      · subst opens
        cases closed : upTo? ')' rest <;> simp [EntityLine.typeArguments, enclosed?, after?, closed]
      · simp [EntityLine.typeArguments, enclosed?, after?, opens]

theorem type?_eq_entityType? (text : List Char) :
    EntityLine.type? text = (entityType? text).map Prod.fst := by
  rw [EntityLine.type?, entityType?, both]
  cases run? isPathChar text with
  | none => rfl
  | some path => simp [both, entityArguments_eq]

/-! ## Modifiers -/

/-- The words of modifiers. -/
def modifierWords : List (List Char) :=
  ["abstract".toList, "static".toList, "classifier".toList]

/-- One of the modifiers. -/
def modifierWord : Pattern :=
  oneOf "abstract".toList ["static".toList, "classifier".toList]

/-- A pattern that is a group or none. -/
def keep : Option Nat → Pattern → Pattern
  | some number, inner => group number inner
  | none, inner => inner

/-- What is captured of a text by a group, if there is the group. -/
def kept (number : Option Nat) (text : Option (List Char)) : Captures :=
  (number.map fun number => captured number text).getD []

/-- A modifier in braces and the blanks behind it:
`\{(abstract|static|classifier)\}\s*`, with a group or without. -/
def modifierPart (number : Option Nat) : Pattern :=
  inOrder [mark '\x7b', keep number modifierWord, mark '\x7d', blanks]

/-- The word of a modifier in braces, and the text behind the blanks that follow it. -/
def writtenModifier? : Reader := fun text =>
  (after? ['\x7b'] text).bind fun rest =>
    (wordAmong modifierWords rest).bind fun read =>
      (after? ['\x7d'] read.2).map fun behind => (read.1, trimStart behind)

/-- Whether a character may stand in front of the name of a member. -/
def isHeadChar (char : Char) : Bool :=
  Visibility.isMarker char || char == '\x7b' || isBlank char

section Head

variable {α : Type} {next : Captures → List Char → Option α} {text : List Char}
  {patterns : List Pattern}

theorem reads_modifierWord : modifierWord.Reads isWord (wordAmong modifierWords) :=
  reads_oneOf (by decide) (by decide)

theorem first_keep_cons (number : Option Nat) (apart : (inOrder patterns).Apart isWord) :
    (inOrder (keep number modifierWord :: patterns)).first next text =
      (wordAmong modifierWords text).bind fun read =>
        (inOrder patterns).first (fun more => next (kept number (some read.1) ++ more)) read.2 := by
  cases number with
  | none => exact reads_modifierWord.first_cons apart
  | some number => exact reads_modifierWord.first_group_cons number apart

theorem first_modifierPart (number : Option Nat) (refuses : Refuses isBlank next) :
    (modifierPart number).first next text =
      (writtenModifier? text).bind fun read => next (kept number (some read.1)) read.2 := by
  have apart : (inOrder [mark '\x7d', blanks]).Apart isWord := apart_mark (by decide)
  rw [modifierPart, first_mark_cons, writtenModifier?, Option.bind_assoc]
  refine Option.bind_congr fun rest _ => ?_
  rw [first_keep_cons number apart, Option.bind_assoc]
  refine Option.bind_congr fun read _ => ?_
  rw [first_mark_cons, Option.bind_map]
  refine Option.bind_congr fun behind _ => ?_
  rw [first_inOrder_singleton, blanks, first_many_of_refuses, List.append_nil]
  · rfl
  · exact fun captures char rest blank => refuses _ char rest blank

/-- The marker of a visibility. -/
def visibilityMark : Pattern :=
  one Visibility.isMarker

theorem first_group_visibilityMark (number : Nat) :
    (group number visibilityMark).first next text =
      (ClassLine.marker text).1.bind fun found =>
        next [(number, found)] (ClassLine.marker text).2 := by
  rw [first_group, visibilityMark]
  cases text with
  | nil => rfl
  | cons char rest =>
      rw [first_one_cons, ClassLine.marker]
      have taken : taken (char :: rest) rest = [char] := taken_append [char] rest
      split <;> simp [taken]

theorem marker_eq_none {char : Char} {rest : List Char}
    (unmarked : Visibility.isMarker char = false) :
    ClassLine.marker (char :: rest) = (none, char :: rest) := by
  simp [ClassLine.marker, unmarked]

/-- What is left is the text itself if there is no marker. -/
theorem marker_snd {text : List Char} (unmarked : (ClassLine.marker text).1 = none) :
    (ClassLine.marker text).2 = text := by
  cases text with
  | nil => rfl
  | cons char rest =>
      rw [ClassLine.marker] at unmarked ⊢
      split at unmarked
      · contradiction
      · next other => rw [if_neg other]

/-- A marker is read if it is there, since what follows does not begin with one. -/
theorem first_marker_cons (number : Nat) (apart : (inOrder patterns).Apart Visibility.isMarker) :
    (inOrder (optional (group number visibilityMark) :: patterns)).first next text =
      (inOrder patterns).first
        (fun more => next (captured number (ClassLine.marker text).1 ++ more))
        (ClassLine.marker text).2 := by
  rw [first_inOrder_cons, first_optional, first_group_visibilityMark]
  cases marked : (ClassLine.marker text).1 with
  | none =>
      rw [marker_snd marked]
      rfl
  | some found =>
      have skipped : (inOrder patterns).first next text = none := by
        cases text with
        | nil => contradiction
        | cons char rest =>
            rw [ClassLine.marker] at marked
            split at marked
            · next isMarker => exact first_eq_none (apart.ways_eq isMarker rest)
            · contradiction
      simp only [List.nil_append, skipped, Option.bind_some, Option.or_none]
      rfl

/-- A modifier is read if it is there, since what follows does not begin with a brace. -/
theorem first_modifier_cons (number : Option Nat)
    (apart : (inOrder patterns).Apart fun char => char == '\x7b' || isBlank char) :
    (inOrder (optional (modifierPart number) :: patterns)).first next text =
      match writtenModifier? text with
      | some (word, rest) =>
          (inOrder patterns).first (fun more => next (kept number (some word) ++ more)) rest
      | none => (inOrder patterns).first next text := by
  rw [first_inOrder_cons, first_optional, first_modifierPart]
  · cases found : writtenModifier? text with
    | none => rfl
    | some read =>
        have skipped : (inOrder patterns).first next text = none := by
          obtain ⟨rest, opened, -⟩ := Option.bind_eq_some_iff.1 found
          rw [after?_eq_some_iff.1 opened]
          exact first_eq_none (apart.ways_eq (by decide) rest)
        simp only [List.nil_append, skipped, Option.bind_some, Option.or_none]
  · exact fun captures char rest blank =>
      first_eq_none (apart.ways_eq (by rw [blank, Bool.or_true]) rest)

theorem writtenModifier?_eq_none {text : List Char}
    (unbraced : ∀ char ∈ text.head?, char ≠ '\x7b') :
    writtenModifier? text = none := by
  rw [writtenModifier?]
  cases text with
  | nil => rfl
  | cons char rest => simp [after?, unbraced char rfl]

theorem marker_of_head {text : List Char}
    (unmarked : ∀ char ∈ text.head?, Visibility.isMarker char = false) :
    ClassLine.marker text = (none, text) := by
  cases text with
  | nil => rfl
  | cons char rest => simp [ClassLine.marker, unmarked char rfl]

/-- What may stand between the first marker and the name of a member. -/
def behindMarker (number : Option Nat) (inner : Nat) (patterns : List Pattern) : Pattern :=
  inOrder (optional (modifierPart number) :: optional (group inner visibilityMark) :: patterns)

theorem isMarker_eq_false {char : Char} (member : (char == '\x7b' || isBlank char) = true) :
    Visibility.isMarker char = false := by
  have other : ∀ visibility ∈ Visibility.all,
      (visibility.marker == '\x7b' || isBlank visibility.marker) = false := by
    decide
  rw [Visibility.isMarker, List.any_eq_false]
  intro visibility listed
  rw [beq_iff_eq]
  rintro rfl
  rw [other visibility listed] at member
  contradiction

/-- What is apart from all characters in front of a name is apart from markers. -/
theorem Apart.marker (apart : (inOrder patterns).Apart isHeadChar) :
    (inOrder patterns).Apart Visibility.isMarker :=
  apart.narrow fun char member => by rw [isHeadChar, member, Bool.true_or, Bool.true_or]

theorem apart_marker_cons (inner : Nat) (apart : (inOrder patterns).Apart isHeadChar) :
    (inOrder (optional (group inner visibilityMark) :: patterns)).Apart
      fun char => char == '\x7b' || isBlank char :=
  Apart.cons
    (apart.narrow fun char member => by rw [isHeadChar, Bool.or_assoc, member, Bool.or_true])
    fun _ => isMarker_eq_false

/-- A name that stands at the start of a text is read without looking for a modifier and
a marker. -/
theorem first_behindMarker_of_found (number : Option Nat) (inner : Nat)
    (apart : (inOrder patterns).Apart isHeadChar) (found : ((inOrder patterns).at? text).isSome) :
    (behindMarker number inner patterns).first next text = (inOrder patterns).first next text := by
  have free := apart.head found
  have unbraced : ∀ char ∈ text.head?, char ≠ '\x7b' := by
    rintro char starts rfl
    exact absurd (free _ starts) (by decide)
  have unmarked : ∀ char ∈ text.head?, Visibility.isMarker char = false := by
    intro char starts
    have other := free char starts
    rw [isHeadChar, Bool.or_assoc, Bool.or_eq_false_iff] at other
    exact other.1
  rw [behindMarker, first_modifier_cons number (apart_marker_cons inner apart),
    writtenModifier?_eq_none unbraced]
  dsimp only
  rw [first_marker_cons inner apart.marker, marker_of_head unmarked]
  rfl

/-- If the first marker is left out, then it is read as the second one. -/
theorem first_behindMarker_of_marked (number : Option Nat) (inner : Nat)
    (apart : (inOrder patterns).Apart isHeadChar) {mark : List Char}
    (marked : (ClassLine.marker text).1 = some mark) :
    (behindMarker number inner patterns).first next text =
      (inOrder patterns).first (fun more => next (captured inner (some mark) ++ more))
        (ClassLine.marker text).2 := by
  have unbraced : ∀ char ∈ text.head?, char ≠ '\x7b' := by
    rintro char starts rfl
    obtain ⟨rest, rfl⟩ := List.head?_eq_some_iff.1 starts
    rw [marker_eq_none (by decide)] at marked
    contradiction
  rw [behindMarker, first_modifier_cons number (apart_marker_cons inner apart),
    writtenModifier?_eq_none unbraced]
  dsimp only
  rw [first_marker_cons inner apart.marker, marked]

/-- The first marker is read if it is there. If it could be left out, then the name
follows it at once, so it need not be left out. -/
theorem first_outer_cons (number : Option Nat) (inner : Nat)
    (apart : (inOrder patterns).Apart isHeadChar) (accepts : Accepts next) :
    (sequence (optional (group 1 visibilityMark)) (behindMarker number inner patterns)).first next
        text =
      (behindMarker number inner patterns).first
        (fun more => next (captured 1 (ClassLine.marker text).1 ++ more))
        (ClassLine.marker text).2 := by
  rw [first_sequence, first_optional, first_group_visibilityMark]
  cases marked : (ClassLine.marker text).1 with
  | none =>
      rw [marker_snd marked]
      rfl
  | some mark =>
      have goes (captures : Captures) : Accepts fun more => next (captures ++ more) :=
        fun more rest => accepts (captures ++ more) rest
      simp only [List.nil_append, Option.bind_some,
        first_behindMarker_of_marked number inner apart marked]
      cases here : (behindMarker number inner patterns).first
          (fun more => next ([(1, mark)] ++ more)) (ClassLine.marker text).2 with
      | some made => exact here.symm
      | none =>
          refine Eq.trans ?_ here.symm
          rw [Option.none_or, ← Option.not_isSome_iff_eq_none]
          intro found
          rw [isSome_first_of_accepts (goes _)] at found
          rw [first_behindMarker_of_found number inner apart found] at here
          rw [← isSome_first_of_accepts (goes [(1, mark)]), here] at found
          contradiction

end Head

/-! ## What stands in front of a name -/

/-- What stands in front of the name of a member, as it is written. -/
structure MemberHead where
  outer : Option (List Char)
  modifier : Option (List Char)
  inner : Option (List Char)
  rest : List Char

/-- The groups of what stands in front of a name. -/
def MemberHead.captures (head : MemberHead) (number : Option Nat) (inner : Nat) : Captures :=
  captured 1 head.outer ++ (kept number head.modifier ++ captured inner head.inner)

/-- What stands in front of a name: a marker on either side of a modifier. -/
def headOf (text : List Char) : MemberHead :=
  let behind := (ClassLine.marker text).2
  match writtenModifier? behind with
  | some (word, rest) =>
      ⟨(ClassLine.marker text).1, some word, (ClassLine.marker rest).1, (ClassLine.marker rest).2⟩
  | none =>
      ⟨(ClassLine.marker text).1, none, (ClassLine.marker behind).1, (ClassLine.marker behind).2⟩

/-- A member: what stands in front of its name, the name and more. -/
def member (number : Option Nat) (inner : Nat) (patterns : List Pattern) : Pattern :=
  inOrder (optional (group 1 visibilityMark) :: optional (modifierPart number) ::
    optional (group inner visibilityMark) :: patterns)

theorem first_member {α : Type} {next : Captures → List Char → Option α} {text : List Char}
    {patterns : List Pattern} (number : Option Nat) (inner : Nat)
    (apart : (inOrder patterns).Apart isHeadChar) (accepts : Accepts next) :
    (member number inner patterns).first next text =
      (inOrder patterns).first (fun more => next ((headOf text).captures number inner ++ more))
        (headOf text).rest := by
  refine (first_outer_cons number inner apart accepts).trans ?_
  rw [behindMarker, first_modifier_cons number (apart_marker_cons inner apart), headOf]
  cases found : writtenModifier? (ClassLine.marker text).2 with
  | none =>
      dsimp only
      rw [first_marker_cons inner apart.marker]
      cases number <;> simp [MemberHead.captures, kept, captured]
  | some read =>
      dsimp only
      rw [first_marker_cons inner apart.marker]
      simp [MemberHead.captures]

/-- The modifier that a word stands for. -/
def modifierOf (word : List Char) : ClassLine.Modifier :=
  if word = "abstract".toList then .abstract
  else if word = "static".toList then .static
  else .classifier

theorem after?_append_opening (front back text : List Char) :
    after? (front ++ back) text = (after? front text).bind (after? back) := by
  induction front generalizing text with
  | nil => rfl
  | cons char front ih =>
      rw [List.cons_append, after?_cons, after?_cons char front, Option.bind_assoc]
      exact Option.bind_congr fun rest _ => ih rest

/-- A modifier in braces is a brace, a word and a brace. -/
theorem after?_braced {word : List Char} (run : IsWordRun word) (text : List Char) :
    after? ('\x7b' :: (word ++ ['\x7d'])) text =
      (after? ['\x7b'] text).bind fun rest =>
        (word? rest).bind fun read =>
          if read.1 = word then after? ['\x7d'] read.2 else none := by
  rw [after?_cons]
  refine Option.bind_congr fun rest _ => ?_
  rw [after?_append_opening]
  exact bind_after? run fun char rest inside => by
    have other : char ≠ '\x7d' := by
      rintro rfl
      exact absurd inside (by decide)
    simp [after?, other]

/-- The modifiers in braces are tried one after the other. -/
theorem findSome?_braced {words : List (List Char)} (runs : ∀ word ∈ words, IsWordRun word)
    (text : List Char) :
    (words.findSome? fun word =>
        (after? ('\x7b' :: (word ++ ['\x7d'])) text).map fun rest => (modifierOf word, rest)) =
      (after? ['\x7b'] text).bind fun rest =>
        (wordAmong words rest).bind fun read =>
          (after? ['\x7d'] read.2).map fun behind => (modifierOf read.1, behind) := by
  induction words with
  | nil => cases after? ['\x7b'] text <;> simp [wordAmong]
  | cons word words ih =>
      obtain ⟨run, others⟩ := List.forall_mem_cons.1 runs
      rw [List.findSome?_cons, ih others, after?_braced run]
      cases after? ['\x7b'] text with
      | none => rfl
      | some rest =>
          simp only [Option.bind_some, wordAmong]
          cases word? rest with
          | none => rfl
          | some read =>
              by_cases same : read.1 = word
              · cases closed : after? ['\x7d'] read.2 <;> simp [same, closed]
              · simp [same]

theorem modifier_eq (text : List Char) :
    ClassLine.modifier text =
      match writtenModifier? text with
      | some (word, rest) => (some (modifierOf word), rest)
      | none => (none, text) := by
  have rows : ClassLine.modifiers = modifierWords.map fun word =>
      ('\x7b' :: (word ++ ['\x7d']), modifierOf word) := by
    decide
  have runs : ∀ word ∈ modifierWords, IsWordRun word := by decide
  rw [ClassLine.modifier, rows, List.findSome?_map]
  simp only [Function.comp_def]
  rw [findSome?_braced runs, writtenModifier?]
  cases after? ['\x7b'] text with
  | none => rfl
  | some rest =>
      simp only [Option.bind_some]
      cases wordAmong modifierWords rest with
      | none => rfl
      | some read =>
          simp only [Option.bind_some]
          cases after? ['\x7d'] read.2 <;> rfl

/-- What stands in front of a name gives the visibility and the modifier. -/
theorem memberHead_eq (text : List Char) :
    ClassLine.memberHead text =
      (Visibility.ofMarker ((headOf text).outer <|> (headOf text).inner),
        (headOf text).modifier.map modifierOf, (headOf text).rest) := by
  rw [ClassLine.memberHead, headOf]
  dsimp only
  rw [modifier_eq]
  cases writtenModifier? (ClassLine.marker text).2 <;> rfl

theorem suffix_headOf (line : List Char) : (headOf line).rest <:+ line := by
  have suffix := ClassLine.suffix_memberHead line
  rwa [memberHead_eq] at suffix

/-! ## Attributes of classes -/

theorem afterColon?_eq (text : List Char) :
    ClassLine.afterColon? text = (after? [':'] (trimStart text)).map trimStart := by
  rw [ClassLine.afterColon?]
  cases trimStart text with
  | nil => rfl
  | cons char rest => by_cases colon : char = ':' <;> simp [after?, colon]

theorem default?_eq (text : List Char) :
    ClassLine.default? text = (closingText? '=' text).bind nonBlank? := by
  rw [bind_closingText?, ClassLine.default?]
  cases trimStart text with
  | nil => rfl
  | cons char rest => by_cases equals : char = '=' <;> simp [after?, equals]

theorem apart_name_of_member (number : Nat) {patterns : List Pattern} :
    (inOrder (group number word :: patterns)).Apart isHeadChar := by
  refine apart_group number (apart_run fun char head => ?_)
  simp only [isHeadChar, Bool.or_eq_true, beq_iff_eq] at head
  rcases head with (marker | rfl) | blank
  · rw [← Bool.not_eq_true]
    intro inside
    rw [Written.isMarker_eq_false_of_isWord inside] at marker
    contradiction
  · decide
  · exact isWord_eq_false_of_isBlank blank

theorem apart_type (number : Nat) {further patterns : List Pattern} :
    (inOrder (group number (pathType further) :: patterns)).Apart isBlank := by
  refine apart_group number (apart_cons rfl fun char blank => ?_)
  have noPath : isPathChar char = false := by
    rw [← Bool.not_eq_true]
    intro path
    rw [isBlank_eq_false_of_isPathChar path] at blank
    contradiction
  simp [pathType, run, inOrder, starts, nullable, noPath]

/-- An attribute of a class, with groups for the markers, the name, the type and the
default value:
`^([+\-#~])?(?:\{(?:abstract|static|classifier)\}\s*)?([+\-#~])?(\w+)\s*:\s*` and
`([\w.]+(?:<[^>]*>)?(?:\[\])?)(?:\s*=\s*(.+))?` behind it. -/
def attributeLine : Pattern :=
  member none 2 [group 3 word, blanks, mark ':', blanks, group 4 memberType,
    optional (closing '=' 5)]

/-- An attribute of a class in parts, as it is written. -/
structure WrittenAttribute where
  head : MemberHead
  name : List Char
  type : List Char
  rest : List Char

/-- The attribute that a line gives, as it is written. -/
def writtenAttribute? (line : List Char) : Option WrittenAttribute :=
  (word? (headOf line).rest).bind fun name =>
    (ClassLine.afterColon? name.2).bind fun rest =>
      (ClassLine.type? rest).map fun type => ⟨headOf line, name.1, type.1, type.2⟩

/-- The groups of an attribute. -/
def WrittenAttribute.captures (written : WrittenAttribute) : Captures :=
  written.head.captures none 2 ++ (3, written.name) :: (4, written.type) ::
    captured 5 (closingText? '=' written.rest)

theorem WrittenAttribute.lookup_captures (written : WrittenAttribute) :
    written.captures.lookup 1 = written.head.outer ∧
      written.captures.lookup 2 = written.head.inner ∧
        written.captures.lookup 3 = some written.name ∧
          written.captures.lookup 4 = some written.type ∧
            written.captures.lookup 5 = closingText? '=' written.rest := by
  obtain ⟨⟨outer, modifier, inner, rest⟩, name, type, behind⟩ := written
  simp only [captures]
  cases outer <;> cases inner <;> cases closingText? '=' behind <;>
    exact ⟨rfl, rfl, rfl, rfl, rfl⟩

theorem captures?_attributeLine {line : List Char} (single : '\n' ∉ line) :
    attributeLine.captures? line = (writtenAttribute? line).map WrittenAttribute.captures := by
  have apartColon : (inOrder [blanks, mark ':', blanks, group 4 memberType,
      optional (closing '=' 5)]).Apart isWord :=
    Apart.cons (apart_mark (by decide)) fun _ => isBlank_eq_false_of_isWord
  have apartType : (inOrder [group 4 memberType, optional (closing '=' 5)]).Apart isBlank :=
    apart_type 4
  have total := total_cons (total_optional (closing '=' 5)) total_nil
  rw [captures?_eq_first, attributeLine,
    first_member none 2 (apart_name_of_member 3) fun _ _ => rfl,
    reads_word.first_group_cons 3 apartColon, writtenAttribute?, Option.map_bind]
  refine Option.bind_congr fun name named => ?_
  rw [first_blanks_cons (apart_mark (by decide)), first_mark_cons, Function.comp_apply,
    Option.map_bind, afterColon?_eq, Option.bind_map]
  refine Option.bind_congr fun rest opened => ?_
  rw [first_blanks_cons apartType, readsLast_memberType.first_group_cons 4 total fun _ _ => rfl,
    Function.comp_apply, Function.comp_apply, Option.map_map, Option.map_eq_bind]
  refine Option.bind_congr fun type typed => ?_
  have singleRest : '\n' ∉ type.2 := by
    refine single_of_suffix ?_ single
    calc
      type.2 <:+ trimStart rest := suffix_of_splits readsLast_memberType.splits typed
      _ <:+ rest := suffix_of_trimStart rest
      _ <:+ trimStart name.2 := suffix_of_after? opened
      _ <:+ name.2 := suffix_of_trimStart name.2
      _ <:+ (headOf line).rest := suffix_of_word? named
      _ <:+ line := suffix_headOf line
  rw [first_closing_last (by decide) 5 singleRest fun more =>
    (headOf line).captures none 2 ++ (3, name.1) :: (4, type.1) :: more]
  rfl

end Pattern

/-- The attribute that the groups of a line give. -/
def attributeRule : Rule Attribute where
  pattern := attributeLine
  needed := [3]
  make _ captures := do
    let name ← captures.text 3
    return {
      name := String.ofList name
      datatype := (captures.optional 4).map String.ofList
      visibility := some (Visibility.ofMarker (captures.lookup 1 <|> captures.lookup 2))
      defaultValue := (captures.optional 5).map String.ofList }
  certain := by decide
  makes := by
    intro _ captures sets
    obtain ⟨name, read⟩ := sets.exists_text 3 (by decide)
    rw [read]
    exact ⟨_, rfl⟩

theorem attribute?_eq (line : List Char) :
    ClassLine.attribute? line =
      (writtenAttribute? line).map fun written =>
        { name := String.ofList written.name
          datatype := some (String.ofList written.type)
          visibility := some (Visibility.ofMarker (written.head.outer <|> written.head.inner))
          defaultValue := ((closingText? '=' written.rest).bind nonBlank?).map String.ofList } := by
  rw [ClassLine.attribute?, memberHead_eq, writtenAttribute?]
  simp only [Option.bind_eq_bind, Option.map_bind, default?_eq]
  refine Option.bind_congr fun name _ => ?_
  rw [Function.comp_apply, Option.map_bind]
  refine Option.bind_congr fun rest _ => ?_
  rw [Function.comp_apply]
  cases ClassLine.type? rest <;> simp

/-- The groups of an attribute make it. -/
theorem make_attributeRule (line : List Char) {written : WrittenAttribute}
    (tidy : Tidy written.type) :
    attributeRule.make line written.captures =
      .ok
        { name := String.ofList written.name
          datatype := some (String.ofList written.type)
          visibility := some (Visibility.ofMarker (written.head.outer <|> written.head.inner))
          defaultValue := ((closingText? '=' written.rest).bind nonBlank?).map String.ofList } := by
  obtain ⟨outer, inner, name, type, default⟩ := written.lookup_captures
  dsimp only [attributeRule]
  rw [Captures.text_eq_ok name, Captures.optional, Captures.optional, outer, inner, type, default,
    Option.bind_some, nonBlank?_tidy tidy]
  rfl

theorem agrees_attributeRule : attributeRule.Agrees ClassLine.attribute? := by
  intro line single
  rw [attribute?_eq]
  refine Rule.read_eq (captures?_attributeLine single) fun written member => ?_
  obtain ⟨name, named, read⟩ := Option.bind_eq_some_iff.1 member
  obtain ⟨rest, colon, read⟩ := Option.bind_eq_some_iff.1 read
  obtain ⟨type, typed, rfl⟩ := Option.map_eq_some_iff.1 read
  have tidy : Tidy type.1 := by
    refine (ClassLine.type?_eq typed (single_of_suffix ?_ single)).1
    calc
      rest <:+ name.2 := ClassLine.suffix_of_afterColon? colon
      _ <:+ (headOf line).rest := suffix_of_word? named
      _ <:+ line := suffix_headOf line
  exact make_attributeRule line tidy

/-! ## Methods -/

namespace Pattern

/-- The type that a method returns: `\s*:\s*([\w.]+(?:<[^>]*>)?(?:\[\])?)`. -/
def returnType : Pattern :=
  inOrder [blanks, mark ':', blanks, group 6 memberType]

/-- A method, with groups for the first marker, the modifier, the second marker, the name,
the parameters and the type that it returns:
`^([+\-#~])?(?:\{(abstract|static|classifier)\}\s*)?([+\-#~])?(\w+)\s*\(([^)]*)\)` and
`(?:\s*:\s*([\w.]+(?:<[^>]*>)?(?:\[\])?))?` behind it. -/
def methodLine : Pattern :=
  member (some 2) 3 [group 4 word, blanks, mark '(', group 5 (many (isOther ')')), mark ')',
    optional returnType]

/-- A method in parts, as it is written. -/
structure WrittenMethod where
  head : MemberHead
  name : List Char
  parameters : List Char
  returns : Option (List Char)

/-- The method that a line gives, as it is written. -/
def writtenMethod? (line : List Char) : Option WrittenMethod :=
  (word? (headOf line).rest).bind fun name =>
    (ClassLine.parameters? name.2).map fun parameters =>
      ⟨headOf line, name.1, parameters.1,
        ((ClassLine.afterColon? parameters.2).bind ClassLine.type?).map Prod.fst⟩

/-- The groups of a method. -/
def WrittenMethod.captures (written : WrittenMethod) : Captures :=
  written.head.captures (some 2) 3 ++ (4, written.name) :: (5, written.parameters) ::
    captured 6 written.returns

theorem WrittenMethod.lookup_captures (written : WrittenMethod) :
    written.captures.lookup 1 = written.head.outer ∧
      written.captures.lookup 2 = written.head.modifier ∧
        written.captures.lookup 3 = written.head.inner ∧
          written.captures.lookup 4 = some written.name ∧
            written.captures.lookup 5 = some written.parameters ∧
              written.captures.lookup 6 = written.returns := by
  obtain ⟨⟨outer, modifier, inner, rest⟩, name, parameters, returns⟩ := written
  cases outer <;> cases modifier <;> cases inner <;> cases returns <;>
    exact ⟨rfl, rfl, rfl, rfl, rfl, rfl⟩

theorem parameters?_eq_upTo? (text : List Char) :
    ClassLine.parameters? text = (after? ['('] (trimStart text)).bind (upTo? ')') := by
  rw [ClassLine.parameters?]
  cases trimStart text with
  | nil => rfl
  | cons char rest => by_cases opens : char = '(' <;> simp [after?, opens]

theorem captures?_returnType (text : List Char) :
    returnType.captures? text =
      ((ClassLine.afterColon? text).bind ClassLine.type?).map fun type => [(6, type.1)] := by
  have apartType : (inOrder [group 6 memberType]).Apart isBlank := apart_type 6
  rw [captures?_eq_first, returnType, first_blanks_cons (apart_mark (by decide)), first_mark_cons,
    afterColon?_eq, Option.bind_map, Option.map_bind]
  refine Option.bind_congr fun rest _ => ?_
  rw [first_blanks_cons apartType, first_inOrder_singleton,
    readsLast_memberType.first_group 6 fun _ _ => rfl, Function.comp_apply, Function.comp_apply,
    Option.map_eq_bind]
  rfl

theorem captures?_methodLine (line : List Char) :
    methodLine.captures? line = (writtenMethod? line).map WrittenMethod.captures := by
  have apartOpening : (inOrder [blanks, mark '(', group 5 (many (isOther ')')), mark ')',
      optional returnType]).Apart isWord :=
    Apart.cons (apart_mark (by decide)) fun _ => isBlank_eq_false_of_isWord
  rw [captures?_eq_first, methodLine,
    first_member (some 2) 3 (apart_name_of_member 4) fun _ _ => rfl,
    reads_word.first_group_cons 4 apartOpening, writtenMethod?, Option.map_bind]
  refine Option.bind_congr fun name _ => ?_
  rw [first_blanks_cons (apart_mark (by decide)), first_mark_cons, Function.comp_apply,
    Option.map_map, parameters?_eq_upTo?, Option.map_bind]
  refine Option.bind_congr fun rest _ => ?_
  rw [first_group_upTo_cons, Function.comp_apply, Option.map_eq_bind]
  refine Option.bind_congr fun parameters _ => ?_
  rw [first_optional_last fun more =>
    (headOf line).captures (some 2) 3 ++ (4, name.1) :: (5, parameters.1) :: more,
    captures?_returnType]
  simp only [Function.comp_apply, WrittenMethod.captures]
  cases (ClassLine.afterColon? parameters.2).bind ClassLine.type? <;> rfl

end Pattern

/-- The method that the groups of a line give. -/
def methodRule : Rule Method where
  pattern := methodLine
  needed := [4]
  make _ captures := do
    let modifier := captures.lookup 2
    let name ← captures.text 4
    return {
      name := String.ofList name
      parameters := (captures.optional 5).map String.ofList
      returnType := (captures.optional 6).map String.ofList
      visibility := some (Visibility.ofMarker (captures.lookup 1 <|> captures.lookup 3))
      isAbstract := if modifier = some "abstract".toList then some true else none
      isStatic :=
        if modifier = some "static".toList ∨ modifier = some "classifier".toList then some true
        else none }
  certain := by decide
  makes := by
    intro _ captures sets
    obtain ⟨name, read⟩ := sets.exists_text 4 (by decide)
    rw [read]
    exact ⟨_, rfl⟩

/-- The modifier of a member is one of the words of modifiers. -/
theorem mem_modifierWords (text : List Char) :
    ∀ word ∈ (headOf text).modifier, word ∈ modifierWords := by
  intro word listed
  rw [headOf] at listed
  split at listed
  · next found read =>
      cases listed
      obtain ⟨rest, -, read⟩ := Option.bind_eq_some_iff.1 read
      obtain ⟨among, reading, read⟩ := Option.bind_eq_some_iff.1 read
      obtain ⟨behind, -, same⟩ := Option.map_eq_some_iff.1 read
      cases same
      obtain ⟨run, -, reading⟩ := Option.bind_eq_some_iff.1 reading
      split at reading
      · next member =>
          cases reading
          exact member
      · contradiction
  · contradiction

/-- A modifier is told by its word. -/
theorem modifierOf_eq {modifier : Option (List Char)}
    (listed : ∀ word ∈ modifier, word ∈ modifierWords) :
    (modifier.map modifierOf = some .abstract ↔ modifier = some "abstract".toList) ∧
      (modifier.map modifierOf = some .static ∨ modifier.map modifierOf = some .classifier ↔
        modifier = some "static".toList ∨ modifier = some "classifier".toList) := by
  cases modifier with
  | none => simp
  | some word =>
      have among := listed word rfl
      simp only [modifierWords, List.mem_cons, List.not_mem_nil, or_false] at among
      rcases among with rfl | rfl | rfl <;> decide

theorem method?_eq (line : List Char) :
    ClassLine.method? line =
      (writtenMethod? line).map fun written =>
        { name := String.ofList written.name
          parameters := (nonBlank? written.parameters).map String.ofList
          returnType := written.returns.map String.ofList
          visibility := some (Visibility.ofMarker (written.head.outer <|> written.head.inner))
          isAbstract := if written.head.modifier = some "abstract".toList then some true else none
          isStatic :=
            if written.head.modifier = some "static".toList ∨
                written.head.modifier = some "classifier".toList then some true
            else none } := by
  have told := modifierOf_eq (mem_modifierWords line)
  have isAbstract := if_congr told.1 (rfl : some true = some true) (rfl : none = none)
  have isStatic := if_congr told.2 (rfl : some true = some true) (rfl : none = none)
  rw [ClassLine.method?, memberHead_eq, writtenMethod?]
  simp only [Option.bind_eq_bind, isAbstract, isStatic]
  rw [Option.map_bind]
  refine Option.bind_congr fun name _ => ?_
  rw [Function.comp_apply, Option.map_map, Option.map_eq_bind]
  refine Option.bind_congr fun parameters _ => ?_
  simp only [Function.comp_apply, Option.map_map]
  rfl

/-- Nothing of the type that a method returns is trimmed. -/
theorem nonBlank?_returns {line : List Char} {written : WrittenMethod}
    (read : writtenMethod? line = some written) (single : '\n' ∉ line) :
    written.returns.bind nonBlank? = written.returns := by
  obtain ⟨name, named, read⟩ := Option.bind_eq_some_iff.1 read
  obtain ⟨parameters, closed, rfl⟩ := Option.map_eq_some_iff.1 read
  cases returned : (ClassLine.afterColon? parameters.2).bind ClassLine.type? with
  | none => rfl
  | some type =>
      obtain ⟨rest, colon, typed⟩ := Option.bind_eq_some_iff.1 returned
      have suffix : rest <:+ line := by
        calc
          rest <:+ parameters.2 := ClassLine.suffix_of_afterColon? colon
          _ <:+ name.2 := (ClassLine.parameters?_eq closed).2
          _ <:+ (headOf line).rest := suffix_of_word? named
          _ <:+ line := suffix_headOf line
      have tidy := (ClassLine.type?_eq typed (single_of_suffix suffix single)).1
      simp [nonBlank?_tidy tidy]

theorem agrees_methodRule : methodRule.Agrees ClassLine.method? := by
  intro line single
  rw [method?_eq]
  refine Rule.read_eq (captures?_methodLine line) fun written member => ?_
  obtain ⟨outer, modifier, inner, name, parameters, returns⟩ := written.lookup_captures
  have tidy := nonBlank?_returns member single
  dsimp only [methodRule]
  rw [Captures.text_eq_ok name, Captures.optional, Captures.optional, outer, modifier, inner,
    parameters, returns, tidy, Option.bind_some]
  rfl

/-! ## Literals -/

namespace Pattern

/-- A word by itself, with or without a comma: `^(\w+)\s*,?$`. -/
def literalLine : Pattern :=
  inOrder [group 1 word, blanks, optional (mark ','), finish]

section Ends

variable {α : Type} {next : Captures → List Char → Option α} {text : List Char}

theorem first_finish : finish.first next text = if text = [] then next [] [] else none := by
  cases text with
  | nil => exact first_finish_nil
  | cons char rest => exact first_finish_cons char rest

/-- A line ends with a comma or without one. -/
theorem first_lineEnd (made : Captures → α) :
    (inOrder [optional (mark ','), finish]).first (fun captures _ => some (made captures)) text =
      if text = [] ∨ text = [','] then some (made []) else none := by
  rw [first_inOrder_cons, first_optional, first_mark]
  simp only [first_inOrder_singleton, first_finish, List.append_nil]
  match text with
  | [] => rfl
  | [char] => by_cases comma : char = ',' <;> simp [after?, comma]
  | char :: second :: rest => by_cases comma : char = ',' <;> simp [after?, comma]

/-- Blanks may stand in front of the end of a line. -/
theorem first_blanks_lineEnd (made : Captures → α) :
    (inOrder [blanks, optional (mark ','), finish]).first (fun captures _ => some (made captures))
        text =
      if trimStart text = [] ∨ trimStart text = [','] then some (made []) else none := by
  rw [first_inOrder_cons, blanks, first_many_of_refuses]
  · exact first_lineEnd made
  · intro captures char rest blank
    dsimp only
    rw [first_lineEnd fun more => made (captures ++ more), if_neg]
    rintro (empty | comma)
    · contradiction
    · cases comma
      exact absurd blank (by decide)

/-- No line ends with a word character. -/
theorem first_blanks_lineEnd_cons (made : Captures → α) {char : Char} (inside : isWord char = true)
    (rest : List Char) :
    (inOrder [blanks, optional (mark ','), finish]).first (fun captures _ => some (made captures))
      (char :: rest) = none := by
  have visible : trimStart (char :: rest) = char :: rest :=
    trimStart_eq_self fun first starts => by
      cases starts
      exact isBlank_eq_false_of_isWord inside
  rw [first_blanks_lineEnd, visible, if_neg]
  rintro (empty | comma)
  · contradiction
  · cases comma
    exact absurd inside (by decide)

end Ends

theorem captures?_literalLine (line : List Char) :
    literalLine.captures? line =
      (ClassLine.literal? line).map fun word => [(1, word)] := by
  have refuses : Refuses isWord fun captures rest =>
      (inOrder [blanks, optional (mark ','), finish]).first
        (fun more _ => some ((1, taken line rest) :: captures ++ more)) rest :=
    fun _ _ rest inside => first_blanks_lineEnd_cons _ inside rest
  rw [captures?_eq_first, literalLine, first_inOrder_cons, first_group,
    reads_word.first_eq _ refuses, ClassLine.literal?, Option.bind_eq_bind, Option.map_bind]
  refine Option.bind_congr fun read reading => ?_
  have run : taken line read.2 = read.1 := by
    rw [splits_run? isWord reading, taken_append]
  rw [first_blanks_lineEnd, Function.comp_apply, run]
  obtain ⟨word, rest⟩ := read
  dsimp only
  split
  · next ends => rcases ends with ends | ends <;> rw [ends] <;> rfl
  · next further =>
      rw [not_or] at further
      split
      · next ends => exact absurd ends further.1
      · next ends => exact absurd ends further.2
      · rfl

end Pattern

/-- The literal that the groups of a line give. -/
def literalRule : Rule String where
  pattern := literalLine
  needed := [1]
  make _ captures := (captures.text 1).map String.ofList
  certain := by decide
  makes := by
    intro _ captures sets
    obtain ⟨word, read⟩ := sets.exists_text 1 (by decide)
    rw [read]
    exact ⟨_, rfl⟩

theorem agrees_literalRule :
    literalRule.Agrees fun line => (ClassLine.literal? line).map String.ofList := by
  intro line _
  exact Rule.read_eq (captures?_literalLine line) fun word _ => rfl

/-! ## Attributes of entities -/

namespace Pattern

/-- An attribute of an entity: `^\*?\s*(\w+)\s*:\s*([\w.]+(?:\([^)]*\))?)`. -/
def entityAttributeLine : Pattern :=
  inOrder [optional (mark '*'), blanks, group 1 word, blanks, mark ':', blanks, group 2 entityType]

/-- The name and the type of an attribute of an entity, as they are written. -/
def writtenEntityAttribute? (line : List Char) : Option (List Char × List Char) :=
  (word? (trimStart (EntityLine.skipStar line))).bind fun name =>
    (after? [':'] (trimStart name.2)).bind fun rest =>
      (entityType? (trimStart rest)).map fun type => (name.1, type.1)

theorem perhaps_skipStar (text : List Char) :
    perhaps (· == '*') text =
      some (if text.head? = some '*' then ['*'] else [], EntityLine.skipStar text) := by
  cases text with
  | nil => rfl
  | cons char rest =>
      by_cases star : char = '*' <;> simp [perhaps, single?, EntityLine.skipStar, star]

theorem captures?_entityAttributeLine (line : List Char) :
    entityAttributeLine.captures? line =
      (writtenEntityAttribute? line).map fun parts => [(1, parts.1), (2, parts.2)] := by
  have apartType : (inOrder [group 2 entityType]).Apart isBlank := apart_type 2
  have apartColon : (inOrder [blanks, mark ':', blanks, group 2 entityType]).Apart isWord :=
    Apart.cons (apart_mark (by decide)) fun _ => isBlank_eq_false_of_isWord
  have apartName : (inOrder [group 1 word, blanks, mark ':', blanks, group 2 entityType]).Apart
      isBlank :=
    apart_group 1 (apart_run fun _ => isWord_eq_false_of_isBlank)
  have apartStar : (inOrder [blanks, group 1 word, blanks, mark ':', blanks,
      group 2 entityType]).Apart (· == '*') := by
    refine Apart.cons (apart_group 1 (apart_run fun char star => ?_)) fun char star => ?_ <;>
      rw [beq_iff_eq] at star <;> rw [star] <;> decide
  rw [captures?_eq_first, entityAttributeLine, mark, (reads_optional_one _).first_cons apartStar,
    perhaps_skipStar, Option.bind_some, first_blanks_cons apartName,
    reads_word.first_group_cons 1 apartColon, writtenEntityAttribute?, Option.map_bind]
  refine Option.bind_congr fun name _ => ?_
  rw [first_blanks_cons (apart_mark (by decide)), first_mark_cons, Function.comp_apply,
    Option.map_bind]
  refine Option.bind_congr fun rest _ => ?_
  rw [first_blanks_cons apartType, first_inOrder_singleton,
    readsLast_entityType.first_group 2 fun _ _ => rfl, Function.comp_apply, Option.map_map,
    Option.map_eq_bind]
  rfl

end Pattern

/-- The attribute that the groups of a line give. -/
def entityAttributeRule : Rule Attribute where
  pattern := entityAttributeLine
  needed := [1]
  make _ captures := do
    let name ← captures.text 1
    return {
      name := String.ofList name
      datatype := (captures.optional 2).map String.ofList }
  certain := by decide
  makes := by
    intro _ captures sets
    obtain ⟨name, read⟩ := sets.exists_text 1 (by decide)
    rw [read]
    exact ⟨_, rfl⟩

/-- A type of an attribute is tidy. -/
theorem tidy_of_entityType? {text : List Char} {type : List Char × List Char}
    (read : entityType? text = some type) (single : '\n' ∉ text) : Tidy type.1 := by
  have found : EntityLine.type? text = some type.1 := by rw [type?_eq_entityType?, read]; rfl
  exact EntityLine.tidy_of_type? found single

theorem entityAttribute?_eq (line : List Char) :
    EntityLine.attribute? line =
      (writtenEntityAttribute? line).map fun parts =>
        { name := String.ofList parts.1, datatype := some (String.ofList parts.2) } := by
  rw [EntityLine.attribute?, writtenEntityAttribute?, Option.bind_eq_bind, Option.map_bind]
  refine Option.bind_congr fun name _ => ?_
  obtain ⟨name, rest⟩ := name
  rw [Function.comp_apply, Option.map_bind]
  dsimp only
  cases visible : trimStart rest with
  | nil => rfl
  | cons char rest =>
      by_cases colon : char = ':'
      · subst colon
        simp only [after?, type?_eq_entityType?, Option.bind_eq_bind, Option.bind_some, if_true,
          Function.comp_apply]
        cases entityType? (trimStart rest) <;> rfl
      · simp [after?, colon]

theorem agrees_entityAttributeRule : entityAttributeRule.Agrees EntityLine.attribute? := by
  intro line single
  rw [entityAttribute?_eq]
  refine Rule.read_eq (captures?_entityAttributeLine line) fun parts member => ?_
  obtain ⟨name, named, read⟩ := Option.bind_eq_some_iff.1 member
  obtain ⟨rest, colon, read⟩ := Option.bind_eq_some_iff.1 read
  obtain ⟨type, typed, rfl⟩ := Option.map_eq_some_iff.1 read
  have suffix : trimStart rest <:+ line := by
    calc
      trimStart rest <:+ rest := suffix_of_trimStart rest
      _ <:+ trimStart name.2 := suffix_of_after? colon
      _ <:+ name.2 := suffix_of_trimStart name.2
      _ <:+ trimStart (EntityLine.skipStar line) := suffix_of_word? named
      _ <:+ EntityLine.skipStar line := suffix_of_trimStart _
      _ <:+ line := EntityLine.suffix_skipStar line
  have tidy := tidy_of_entityType? typed (single_of_suffix suffix single)
  have datatype : Captures.optional [(1, name.1), (2, type.1)] 2 = some type.1 :=
    nonBlank?_tidy tidy
  dsimp only [entityAttributeRule]
  rw [datatype]
  rfl

end DiagramGraph
