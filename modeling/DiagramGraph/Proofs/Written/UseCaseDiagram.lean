import DiagramGraph.Proofs.Entry.Assembly
import DiagramGraph.Proofs.Written.Arrow
import DiagramGraph.Proofs.Written.Introduction

/-!
# Use-case diagrams are read as they are written

The items of a use-case diagram are actors, use cases and links between them. Each
is written on one line, and a source that writes items in whatever layout is parsed
as the model of the items. A label may look like a further link or like a
declaration: a line is read from its first word on.
-/

namespace DiagramGraph.Written

open DiagramGraph.Text DiagramGraph.UseCaseLine

/-! ## Links -/

/-- A link between two actors or use cases. -/
structure Association where
  source : Word
  glyph : LinkGlyph
  target : Word
  colonApart : Bool
  label : Option (Phrase [])

namespace Association

/-- The target with the label behind it. -/
def targetText (association : Association) : List Char :=
  association.target.text ++ captionText association.colonApart association.label

/-- What follows the gap behind the source. -/
def linkText (association : Association) : List Char :=
  association.glyph.text ++ ' ' :: association.targetText

/-- The line of a link. -/
def text (association : Association) : List Char :=
  association.source.text ++ ' ' :: association.linkText

/-- The relationship that is written. -/
def meaning (association : Association) : Relationship :=
  { kind := association.glyph.kind
    source := String.ofList association.source.text
    target := String.ofList association.target.text
    label := association.label.map fun phrase => String.ofList phrase.text }

theorem tidy_targetText (association : Association) : Tidy association.targetText :=
  tidy_captionText association.target.tidy _ _

theorem tidy_linkText (association : Association) : Tidy association.linkText := by
  have blank : '\n' ∉ [' '] := by decide
  exact association.glyph.tidy.join association.tidy_targetText blank

theorem isLine (association : Association) : IsLine association.text := by
  apply association.source.isLine_append
  have blank : '\n' ∉ [' '] := by decide
  exact association.source.tidy.join association.tidy_linkText blank

/-- The link behind the source is what does not begin with a blank. -/
theorem head_linkText (association : Association) :
    ∀ char ∈ association.linkText.head?, isBlank char = false := fun char starts =>
  (association.glyph.beginsConnector _ char starts).1

/-- The line of a link holds the link, from its first word on. -/
theorem linkAt?_text (association : Association) :
    linkAt? association.text = some association.meaning := by
  have source := association.source.leadingWord?_behind association.head_linkText
  have link := association.glyph.read?_behind association.targetText
  have gap := gap?_behind (association.target.tidy.head_append
    (captionText association.colonApart association.label))
  have target := association.target.word?_append
    (head_captionText association.colonApart association.label)
  rw [targetText] at link
  rw [linkText, targetText] at source
  simp [linkAt?, text, linkText, targetText, source, link, gap, target, label?_captionText,
    association.glyph.isDotted_text, meaning, Function.comp_def]

theorem link?_text (association : Association) :
    link? association.text = some association.meaning :=
  association.source.firstAtWord_append association.linkAt?_text

/-- No link declares anything, even if its source is a keyword: behind the source
comes a connector. -/
theorem declaration?_text (association : Association) : declaration? association.text = none := by
  have stop : ∀ char ∈ (' ' :: association.linkText).head?, isWord char = false := by
    rintro char ⟨⟩
    decide
  have unnamed : ∀ char ∈ (trimStart (' ' :: association.linkText)).head?,
      char ≠ '"' ∧ isWord char = false := by
    rw [trimStart_behind association.head_linkText]
    exact fun char starts => (association.glyph.beginsConnector _ char starts).2
  rw [declaration?, text, association.source.readAny?_eq_none stop unnamed]
  rfl

end Association

/-! ## Items -/

/-- What is declared in a use-case diagram. -/
inductive UseCaseKeyword where
  | actor
  | useCase

namespace UseCaseKeyword

/-- The keyword as it is written. -/
def word : UseCaseKeyword → Word
  | actor => ⟨"actor".toList, by decide, List.all_eq_true.1 (by decide)⟩
  | useCase => ⟨"usecase".toList, by decide, List.all_eq_true.1 (by decide)⟩

/-- The type of the declared element. -/
def type : UseCaseKeyword → String
  | actor => "Actor"
  | useCase => "UseCase"

theorem lookup_keywords (keyword : UseCaseKeyword) :
    keywords.lookup (String.ofList keyword.word.text) = some keyword.type := by
  cases keyword <;> decide

end UseCaseKeyword

/-- An item of a use-case diagram. -/
inductive UseCaseItem where
  | declaration (keyword : UseCaseKeyword) (introduced : Introduced)
  | link (association : Association)

namespace UseCaseItem

/-- The line of an item. -/
def text : UseCaseItem → List Char
  | declaration keyword introduced => introduced.text keyword.word
  | link association => association.text

/-- The actor or use case that an item declares. -/
def element? : UseCaseItem → Option Element
  | declaration keyword introduced => some (introduced.meaning keyword.type)
  | link _ => none

/-- The link that an item states. -/
def relationship? : UseCaseItem → Option Relationship
  | declaration _ _ => none
  | link association => some association.meaning

/-- The model of some items. -/
def model (items : List UseCaseItem) : Model :=
  { kind := .useCase
    elements := items.filterMap element?
    relationships := items.filterMap relationship? }

/-- The entry that the line of an item makes. -/
def entry : UseCaseItem → Entry
  | declaration keyword introduced => .element (introduced.meaning keyword.type)
  | link association => .relationship association.meaning

theorem isLine : ∀ item : UseCaseItem, IsLine item.text
  | declaration keyword introduced => introduced.isLine keyword.word
  | link association => association.isLine

/-- The line of an item makes its entry. -/
theorem entryOf?_text (item : UseCaseItem) : entryOf? item.text = some item.entry := by
  cases item with
  | declaration keyword introduced =>
      have read : declaration? (introduced.text keyword.word) =
          some (introduced.meaning keyword.type) :=
        introduced.readAny?_text keyword.lookup_keywords
      rw [entryOf?, text, read]
      rfl
  | link association =>
      rw [entryOf?, text, association.declaration?_text, association.link?_text]
      rfl

/-- The entries of items are assembled into the declared elements and the links of
the items. -/
theorem ofEntries_items (items : List UseCaseItem) :
    Model.ofEntries .useCase (items.map entry) = model items :=
  Model.ofEntries_map (by rintro (_ | _) <;> trivial) (by rintro (_ | _) <;> rfl)
    (by rintro (_ | _) <;> rfl) .useCase items

end UseCaseItem

/-! ## The main statement -/

theorem ignoresBraces_useCase : IgnoresBraces .useCase :=
  ⟨rfl, rfl⟩

/-- A source that writes the items of a use-case diagram on lines of their own,
behind a directive for use-case diagrams, is parsed as the model of the items. -/
theorem parse_useCaseDiagram {items : List UseCaseItem} {lines : List (List Char)}
    (lays : Lays (items.map UseCaseItem.text) lines) :
    parse (source UseCaseKeyword.useCase.word lines) = .ok (UseCaseItem.model items) := by
  have telling : asciiLower UseCaseKeyword.useCase.word.text ≠ Detection.bareWord := by decide
  have kind : DiagramKind.ofDirective
      (String.ofList (asciiLower UseCaseKeyword.useCase.word.text)) = .useCase := by
    decide
  have detected : detect (source UseCaseKeyword.useCase.word lines) = .ok .useCase := by
    rw [detect_source lines telling, kind]
  rw [parse_lineItems detected ignoresBraces_useCase UseCaseItem.isLine UseCaseItem.entryOf?_text
    lays, UseCaseItem.ofEntries_items]

/-! ## A small source -/

def clerkWord : Word :=
  ⟨"Clerk".toList, by decide, List.all_eq_true.1 (by decide)⟩

/-- A clerk, with a link that begins with a keyword and has a label that looks like
a declaration. -/
def clerkItems : List UseCaseItem :=
  [ .declaration .actor ⟨.quoted ⟨"The clerk".toList, by decide, by decide, by decide⟩,
      some clerkWord⟩,
    .declaration .useCase ⟨.bare UseCaseKeyword.actor.word, none⟩,
    .link
      { source := UseCaseKeyword.actor.word
        glyph := ⟨true, .dots 1, true⟩
        target := clerkWord
        colonApart := false
        label := some ⟨"usecase a -> b".toList, tidy_iff.2 (by decide), by simp⟩ },
    .link
      { source := clerkWord
        glyph := ⟨false, .dashes 0, false⟩
        target := UseCaseKeyword.actor.word
        colonApart := true
        label := none } ]

/-- The text of these items, one per line. -/
def clerkSource : String :=
  "@startusecase\nactor \"The clerk\" as Clerk\nusecase actor\n" ++
    "actor <...> Clerk: usecase a -> b\nClerk - actor"

theorem parse_clerkSource :
    Lays (clerkItems.map UseCaseItem.text) (clerkItems.map UseCaseItem.text) ∧
      source UseCaseKeyword.useCase.word (clerkItems.map UseCaseItem.text) = clerkSource ∧
      parse clerkSource = .ok (UseCaseItem.model clerkItems) := by
  have lays := lays_self (clerkItems.map UseCaseItem.text)
  have shown : source UseCaseKeyword.useCase.word (clerkItems.map UseCaseItem.text) =
      clerkSource := by
    decide +kernel
  refine ⟨lays, shown, ?_⟩
  rw [← shown]
  exact parse_useCaseDiagram lays

end DiagramGraph.Written
