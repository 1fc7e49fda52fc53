import DiagramGraph.Entry.EntityLine
import DiagramGraph.Proofs.Written.Piece

/-!
# Written entity diagrams

The items of an entity diagram, each with the texts by which it is written and
with what it means. An item is an entity with its columns, or a relation between
two entities. All texts that an item is made of carry the conditions under which
they can be written, so every item can.
-/

namespace DiagramGraph.Written

open DiagramGraph.Text

/-! ## Braces -/

/-- Braces at the end of a line, with any blanks in front of them and between
them. -/
structure Braces where
  text : List Char
  braces : ∀ char ∈ text, isBlank char = true ∨ char = '\x7b' ∨ char = '\x7d'
  single : '\n' ∉ text
  finish : ∀ last ∈ text.getLast?, isBlank last = false

/-! ## Columns -/

/-- Two dashes or two dots stand side by side in a text. -/
def ContainsShaft (text : List Char) : Prop :=
  ['-', '-'] <:+: text ∨ ['.', '.'] <:+: text

/-- The type of a column: a dotted path, possibly with arguments in parentheses.
A shaft in the arguments could make a relation of the words around it. -/
structure ColumnType where
  path : List Char
  nonempty : path ≠ []
  dotted : ∀ char ∈ path, isPathChar char = true
  arguments : Option (List Char)
  plain : ∀ inner ∈ arguments, ')' ∉ inner ∧ '\n' ∉ inner
  shaftless : ∀ inner ∈ arguments, ¬ ContainsShaft inner

namespace ColumnType

/-- The arguments with their parentheses. -/
def argumentsText : Option (List Char) → List Char
  | none => []
  | some inner => '(' :: (inner ++ [')'])

/-- The type as it is written. -/
def text (type : ColumnType) : List Char :=
  type.path ++ argumentsText type.arguments

end ColumnType

/-- A column of an entity. If it is mandatory, it has a star. -/
structure Column where
  mandatory : Bool
  starApart : Bool
  name : Word
  colonApart : Bool
  type : ColumnType
  braces : Braces

namespace Column

/-- The star of a mandatory column, set apart from the name or not. -/
def starText (mandatory apart : Bool) : List Char :=
  if mandatory then if apart then ['*', ' '] else ['*'] else []

/-- The line of a column. -/
def text (column : Column) : List Char :=
  starText column.mandatory column.starApart ++
    (column.name.text ++
      (colon column.colonApart ++ (' ' :: (column.type.text ++ column.braces.text))))

/-- The attribute that is written. -/
def meaning (column : Column) : Attribute :=
  { name := String.ofList column.name.text
    datatype := some (String.ofList column.type.text) }

end Column

/-! ## Entities -/

/-- The word with which an entity is declared. -/
def entityWord : Word :=
  ⟨"entity".toList, by decide, List.all_eq_true.1 (by decide)⟩

/-- The declaration of an entity. -/
structure DeclaredEntity where
  name : Name
  aliasWord : Option Word
  braces : Braces

namespace DeclaredEntity

/-- The name with all that follows it. -/
def namedText (declared : DeclaredEntity) : List Char :=
  declared.name.written ++ (spaced (aliasPieces declared.aliasWord) ++ declared.braces.text)

/-- The line of a declaration. -/
def text (declared : DeclaredEntity) : List Char :=
  entityWord.text ++ (' ' :: declared.namedText)

/-- The entity that the line declares. -/
def meaning (declared : DeclaredEntity) : Element :=
  { type := "Entity"
    name := String.ofList declared.name.text
    aliasName := declared.aliasWord.map fun word => String.ofList word.text }

end DeclaredEntity

/-! ## Relations -/

/-- A marker at one end of a connector. The bar and the circle of an optional end
may stand in either order. -/
inductive Mark where
  | one
  | zeroOrOne (barFirst : Bool)
  | zeroOrMany
  | oneOrMany

namespace Mark

/-- The marker as it is written at the left or the right end. -/
def text : ConnectorEnd → Mark → List Char
  | _, one => ['|', '|']
  | _, zeroOrOne barFirst => if barFirst then ['|', 'o'] else ['o', '|']
  | .left, zeroOrMany => ['\x7d', 'o']
  | .right, zeroOrMany => ['o', '\x7b']
  | .left, oneOrMany => ['\x7d', '|']
  | .right, oneOrMany => ['|', '\x7b']

/-- The cardinality that the marker stands for. -/
def cardinality : Mark → Cardinality
  | one => .one
  | zeroOrOne _ => .zeroOrOne
  | zeroOrMany => .zeroOrMany
  | oneOrMany => .oneOrMany

end Mark

/-- A crow's-foot connector, with or without a marker at each end. -/
structure Foot where
  left : Option Mark
  dotted : Bool
  right : Option Mark

namespace Foot

/-- The shaft as it is written. -/
def shaftText (dotted : Bool) : List Char :=
  if dotted then ['.', '.'] else ['-', '-']

/-- What is written at one end. -/
def endText (side : ConnectorEnd) : Option Mark → List Char
  | none => []
  | some mark => mark.text side

/-- The connector as it is written. -/
def text (foot : Foot) : List Char :=
  endText .left foot.left ++ (shaftText foot.dotted ++ endText .right foot.right)

/-- The cardinality of an end. -/
def endCardinality : Option Mark → Cardinality
  | none => .many
  | some mark => mark.cardinality

end Foot

/-- A relation between two entities. Its source must not be the word that begins
a declaration. -/
structure Relation where
  source : Word
  foot : Foot
  target : Word
  label : Option (Phrase [])
  undeclaring : source.text ≠ entityWord.text

namespace Relation

/-- The line of a relation. -/
def text (relation : Relation) : List Char :=
  relation.source.text ++
    spaced (relation.foot.text :: relation.target.text :: Link.labelPieces relation.label)

/-- The relationship that is written. -/
def meaning (relation : Relation) : Relationship :=
  { kind := .entityRelation
    source := String.ofList relation.source.text
    target := String.ofList relation.target.text
    label := relation.label.map fun phrase => String.ofList phrase.text
    sourceCardinality := some (Foot.endCardinality relation.foot.left)
    targetCardinality := some (Foot.endCardinality relation.foot.right) }

end Relation

/-! ## Items -/

/-- An item of an entity diagram: an entity with columns behind it, or a
relation. -/
inductive EntityItem where
  | entity (declared : DeclaredEntity) (columns : List Column)
  | relation (relation : Relation)

namespace EntityItem

/-- The lines of an item. -/
def texts : EntityItem → List (List Char)
  | entity declared columns => declared.text :: columns.map Column.text
  | relation line => [line.text]

/-- The entity that an item declares, with its columns. -/
def element? : EntityItem → Option Element
  | entity declared columns =>
      some { declared.meaning with attributes := columns.map Column.meaning }
  | relation _ => none

/-- The relationship that an item states. -/
def relationship? : EntityItem → Option Relationship
  | entity _ _ => none
  | relation line => some line.meaning

/-- The model of some items. -/
def model (items : List EntityItem) : Model :=
  { kind := .entityRelationship
    elements := items.filterMap element?
    relationships := items.filterMap relationship? }

end EntityItem

end DiagramGraph.Written
