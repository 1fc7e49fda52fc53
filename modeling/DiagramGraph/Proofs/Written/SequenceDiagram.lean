import DiagramGraph.Proofs.Entry.Assembly
import DiagramGraph.Proofs.Written.Arrow
import DiagramGraph.Proofs.Written.Introduction
import Mathlib.Data.List.Infix

/-!
# Sequence diagrams are read as they are written

The items of a sequence diagram are participants in one of six roles and
messages between them. Each is written on one line, and a source that writes
items in whatever layout is parsed as the model of the items. Blanks around an
arrow may be left out: an arrow ends where the word behind it begins, because no
character belongs to both.
-/

namespace DiagramGraph.Written

open DiagramGraph.Text DiagramGraph.SequenceLine

/-! ## Participants -/

/-- The role in which a participant is introduced. -/
inductive Role where
  | participant
  | actor
  | boundary
  | control
  | entity
  | database

namespace Role

/-- The role as it is written. -/
def text : Role → List Char
  | participant => "participant".toList
  | actor => "actor".toList
  | boundary => "boundary".toList
  | control => "control".toList
  | entity => "entity".toList
  | database => "database".toList

/-- The word with which a participant is introduced. -/
def word (role : Role) : Word where
  text := role.text
  nonempty := by cases role <;> decide
  word := by cases role <;> exact List.all_eq_true.1 (by decide)

/-- The type of the participants in a role is the capitalised role. -/
def type (role : Role) : String :=
  String.ofList (capitalize role.text)

theorem lookup_roles (role : Role) : roles.lookup (String.ofList role.text) = some role.type := by
  cases role <;> decide

end Role

/-! ## Messages -/

/-- A blank, or nothing. -/
def optionalBlank (apart : Bool) : List Char :=
  if apart then [' '] else []

/-- A message. The arrow may be set apart from the words at its ends. -/
structure Message where
  source : Word
  sourceApart : Bool
  arrow : ArrowGlyph
  targetApart : Bool
  target : Word
  colonApart : Bool
  caption : Option (Phrase [])

namespace Message

/-- What follows the arrow. -/
def behindArrow (message : Message) : List Char :=
  optionalBlank message.targetApart ++
    (message.target.text ++ captionText message.colonApart message.caption)

/-- What follows the source. -/
def behindSource (message : Message) : List Char :=
  optionalBlank message.sourceApart ++ (message.arrow.text ++ message.behindArrow)

/-- The line of a message. -/
def text (message : Message) : List Char :=
  message.source.text ++ message.behindSource

/-- The relationship that is written. -/
def meaning (message : Message) : Relationship :=
  { kind := .message
    source := String.ofList message.source.text
    target := String.ofList message.target.text
    message := message.caption.map fun phrase => String.ofList phrase.text
    synchronous := some (decide (¬ ['-', '-'] <:+: message.arrow.text)) }

theorem trimStart_optionalBlank {rest : List Char}
    (visible : ∀ char ∈ rest.head?, isBlank char = false) (apart : Bool) :
    trimStart (optionalBlank apart ++ rest) = rest := by
  cases apart with
  | true => exact trimStart_behind visible
  | false => exact trimStart_eq_self visible

theorem trimStart_behindSource (message : Message) :
    trimStart message.behindSource = message.arrow.text ++ message.behindArrow :=
  trimStart_optionalBlank (fun char starts => (message.arrow.beginsConnector _ char starts).1) _

theorem trimStart_behindArrow (message : Message) :
    trimStart message.behindArrow =
      message.target.text ++ captionText message.colonApart message.caption :=
  trimStart_optionalBlank (message.target.tidy.head_append _) _

/-- The source ends where the arrow or the blank in front of it begins. -/
theorem head_behindSource (message : Message) :
    ∀ char ∈ message.behindSource.head?, isWord char = false := by
  rw [behindSource]
  cases message.sourceApart with
  | true =>
      rintro char ⟨⟩
      decide
  | false => exact fun char starts => (message.arrow.beginsConnector _ char starts).2.2

/-- The arrow ends where the target or the blank in front of it begins. -/
theorem head_behindArrow (message : Message) :
    ∀ char ∈ message.behindArrow.head?, Arrow.isPart char = false := by
  rw [behindArrow]
  cases message.targetApart with
  | true =>
      rintro char ⟨⟩
      decide
  | false =>
      rcases List.exists_cons_of_ne_nil message.target.nonempty with ⟨first, more, shape⟩
      have dash : isWord '-' = false := by decide
      have head : isWord '>' = false := by decide
      rw [shape]
      rintro char ⟨⟩
      rw [Arrow.isPart, Bool.or_eq_false_iff, beq_eq_false_iff_ne, beq_eq_false_iff_ne]
      constructor
      · rintro rfl
        exact message.target.notMem dash (by simp [shape])
      · rintro rfl
        exact message.target.notMem head (by simp [shape])

/-- The line of a message holds the message, from its first word on. -/
theorem messageAt?_text (message : Message) :
    messageAt? message.text = some message.meaning := by
  have source := message.source.word?_append message.head_behindSource
  have arrow := message.arrow.read?_append message.head_behindArrow
  have target :=
    message.target.word?_append (head_captionText message.colonApart message.caption)
  have dashed : (!Arrow.isDashed message.arrow.text) =
      decide (¬ ['-', '-'] <:+: message.arrow.text) := by
    rw [Bool.eq_iff_iff, Bool.not_eq_true', ← Bool.not_eq_true, isDashed_iff, decide_eq_true_iff]
  simp [messageAt?, text, source, message.trimStart_behindSource, arrow,
    message.trimStart_behindArrow, target, label?_captionText, dashed, meaning, Function.comp_def]

theorem message?_text (message : Message) : message? message.text = some message.meaning :=
  message.source.firstAtWord_append message.messageAt?_text

/-- No message introduces a participant, even if its source is a role: behind the
source comes an arrow. -/
theorem participant?_text (message : Message) : participant? message.text = none := by
  have unnamed : ∀ char ∈ (trimStart message.behindSource).head?,
      char ≠ '"' ∧ isWord char = false := by
    rw [message.trimStart_behindSource]
    exact fun char starts => (message.arrow.beginsConnector _ char starts).2
  rw [participant?, text, message.source.readAny?_eq_none message.head_behindSource unnamed]
  rfl

theorem isLine (message : Message) : IsLine message.text := by
  apply message.source.isLine_append
  have blank (apart : Bool) : '\n' ∉ optionalBlank apart := by
    cases apart <;> decide
  have target : Tidy (message.target.text ++ captionText message.colonApart message.caption) :=
    tidy_captionText message.target.tidy _ _
  exact message.source.tidy.join (message.arrow.tidy.join target (blank _)) (blank _)

end Message

/-! ## Items -/

/-- An item of a sequence diagram. -/
inductive SequenceItem where
  | participant (role : Role) (introduced : Introduced)
  | message (message : Message)

namespace SequenceItem

/-- The line of an item. -/
def text : SequenceItem → List Char
  | participant role introduced => introduced.text role.word
  | message line => line.text

/-- The participant that an item introduces. -/
def element? : SequenceItem → Option Element
  | participant role introduced => some (introduced.meaning role.type)
  | message _ => none

/-- The message that an item states. -/
def relationship? : SequenceItem → Option Relationship
  | participant _ _ => none
  | message line => some line.meaning

/-- The model of some items. -/
def model (items : List SequenceItem) : Model :=
  { kind := .sequence
    elements := items.filterMap element?
    relationships := items.filterMap relationship? }

/-- The entry that the line of an item makes. -/
def entry : SequenceItem → Entry
  | participant role introduced => .element (introduced.meaning role.type)
  | message line => .relationship line.meaning

theorem isLine : ∀ item : SequenceItem, IsLine item.text
  | participant role introduced => introduced.isLine role.word
  | message line => line.isLine

/-- The line of an item makes its entry. -/
theorem entryOf?_text (item : SequenceItem) : entryOf? item.text = some item.entry := by
  cases item with
  | participant role introduced =>
      have read : participant? (introduced.text role.word) =
          some (introduced.meaning role.type) :=
        introduced.readAny?_text role.lookup_roles
      rw [entryOf?, text, read]
      rfl
  | message line =>
      rw [entryOf?, text, line.participant?_text, line.message?_text]
      rfl

theorem ofEntries_items (items : List SequenceItem) :
    Model.ofEntries .sequence (items.map entry) = model items :=
  Model.ofEntries_map (by rintro (_ | _) <;> trivial) (by rintro (_ | _) <;> rfl)
    (by rintro (_ | _) <;> rfl) .sequence items

end SequenceItem

/-! ## The main statement -/

/-- The word of the directive for sequence diagrams. -/
def sequenceWord : Word :=
  ⟨"sequence".toList, by decide, List.all_eq_true.1 (by decide)⟩

theorem ignoresBraces_sequence : IgnoresBraces .sequence :=
  ⟨rfl, rfl⟩

/-- A source that writes the items of a sequence diagram on lines of their own,
behind a directive for sequence diagrams, is parsed as the model of the items. -/
theorem parse_sequenceDiagram {items : List SequenceItem} {lines : List (List Char)}
    (lays : Lays (items.map SequenceItem.text) lines) :
    parse (source sequenceWord lines) = .ok (SequenceItem.model items) := by
  have telling : asciiLower sequenceWord.text ≠ Detection.bareWord := by decide
  have kind : DiagramKind.ofDirective (String.ofList (asciiLower sequenceWord.text)) =
      .sequence := by
    decide
  have detected : detect (source sequenceWord lines) = .ok .sequence := by
    rw [detect_source lines telling, kind]
  rw [parse_lineItems detected ignoresBraces_sequence SequenceItem.isLine
    SequenceItem.entryOf?_text lays, SequenceItem.ofEntries_items]

/-! ## A small source -/

def storeWord : Word :=
  ⟨"DB".toList, by decide, List.all_eq_true.1 (by decide)⟩

/-- A store, under its own name. -/
def storeParticipant : Introduced :=
  { name := .quoted ⟨"Main DB".toList, by decide, by decide, by decide⟩
    aliasWord := some storeWord }

/-- An actor whose name is its role. -/
def actorParticipant : Introduced :=
  ⟨.bare Role.actor.word, none⟩

/-- A call by the actor, with what looks like another call in its text. -/
def storeCall : Message :=
  { source := Role.actor.word
    sourceApart := false
    arrow := ⟨false, ['>', '>'], by decide, by simp⟩
    targetApart := false
    target := storeWord
    colonApart := false
    caption := some ⟨"a -> b : c".toList, tidy_iff.2 (by decide), by simp⟩ }

/-- The answer of the store. -/
def storeAnswer : Message :=
  { source := Role.actor.word
    sourceApart := true
    arrow := ⟨true, ['-'], by decide, by simp⟩
    targetApart := true
    target := storeWord
    colonApart := true
    caption := none }

/-- A store that is called by an actor. -/
def storeItems : List SequenceItem :=
  [ .participant .database storeParticipant,
    .message storeCall,
    .message storeAnswer,
    .participant .actor actorParticipant ]

/-- The lines of the store, with the call indented behind a remark. -/
def storeLines : List (List Char) :=
  [ storeParticipant.text Role.database.word,
    "' x -> y".toList,
    [' ', ' '] ++ (storeCall.text ++ ['\r']),
    storeAnswer.text,
    actorParticipant.text Role.actor.word ]

/-- The text of these lines. -/
def storeSource : String :=
  "@startsequence\ndatabase \"Main DB\" as DB\n' x -> y\n  actor->>DB: a -> b : c\r\n" ++
    "actor <-- DB\nactor actor"

theorem parse_storeSource :
    Lays (storeItems.map SequenceItem.text) storeLines ∧
      source sequenceWord storeLines = storeSource ∧
      parse storeSource = .ok (SequenceItem.model storeItems) := by
  have bare : IsIndent [] := ⟨by simp, by simp⟩
  have two : IsIndent [' ', ' '] := ⟨List.all_eq_true.1 (by decide), by decide⟩
  have ending : IsIndent ['\r'] := ⟨List.all_eq_true.1 (by decide), by decide⟩
  have remark : IsIdle "' x -> y".toList := .remark (tidy_iff.2 (by decide))
  have lays : Lays (storeItems.map SequenceItem.text) storeLines := by
    have others : Lays [storeAnswer.text, actorParticipant.text Role.actor.word] _ := lays_self _
    have call : Lays (storeCall.text :: _) _ := .content two ending others
    have remarked : Lays (storeCall.text :: _) (([] ++ ("' x -> y".toList ++ [])) :: _) :=
      .idle remark bare bare call
    have head : Lays _ (([] ++ (storeParticipant.text Role.database.word ++ [])) :: _) :=
      .content bare bare remarked
    rw [List.nil_append, List.append_nil] at head
    exact head
  have shown : source sequenceWord storeLines = storeSource := by decide +kernel
  refine ⟨lays, shown, ?_⟩
  rw [← shown]
  exact parse_sequenceDiagram lays

end DiagramGraph.Written
