import DiagramGraph.Entry.ClassLine
import DiagramGraph.Proofs.Written.Piece

/-!
# Written class diagrams

The items of a class diagram, each with the texts by which it is written and
with what it means. An item is a declaration with its members, or a
relationship. All texts that an item is made of carry the conditions under
which they can be written, so every item can.
-/

namespace DiagramGraph.Written

open DiagramGraph.Text

/-! ## Types -/

/-- A type: a dotted path, possibly with arguments in angle brackets and with
array brackets. -/
structure TypeText where
  path : List Char
  nonempty : path ≠ []
  dotted : ∀ char ∈ path, isPathChar char = true
  arguments : Option (List Char)
  plain : ∀ inner ∈ arguments, '>' ∉ inner ∧ '\n' ∉ inner
  array : Bool

namespace TypeText

/-- The arguments with their brackets. -/
def argumentsText : Option (List Char) → List Char
  | none => []
  | some inner => '<' :: (inner ++ ['>'])

/-- The brackets of an array type. -/
def arrayText (array : Bool) : List Char :=
  if array then ['[', ']'] else []

/-- The type as it is written. -/
def text (type : TypeText) : List Char :=
  type.path ++ (argumentsText type.arguments ++ arrayText type.array)

end TypeText

/-! ## Members -/

/-- An attribute. -/
structure Field where
  visibility : Visibility
  name : Word
  colonApart : Bool
  type : TypeText
  default : Option (Phrase [])

namespace Field

/-- The pieces that give the default value, if there is one. -/
def defaultPieces : Option (Phrase []) → List (List Char)
  | none => []
  | some phrase => [['='], phrase.text]

/-- The line of an attribute. -/
def text (field : Field) : List Char :=
  field.visibility.marker ::
    (field.name.text ++
      (colon field.colonApart ++ spaced (field.type.text :: defaultPieces field.default)))

/-- The attribute that is written. -/
def meaning (field : Field) : Attribute :=
  { name := String.ofList field.name.text
    datatype := some (String.ofList field.type.text)
    visibility := some field.visibility
    defaultValue := field.default.map fun phrase => String.ofList phrase.text }

end Field

/-- A method. With a modifier, the marker of the visibility may stand on either
side of it. -/
structure Operation where
  visibility : Visibility
  modifier : Option ClassLine.Modifier
  markerFirst : Bool
  name : Word
  parameters : Option (Phrase [')'])
  colonApart : Bool
  returnType : Option TypeText

namespace Operation

/-- A modifier as it is written. -/
def modifierText : ClassLine.Modifier → List Char
  | .abstract => "\x7babstract\x7d".toList
  | .static => "\x7bstatic\x7d".toList
  | .classifier => "\x7bclassifier\x7d".toList

/-- What stands in front of the name of a method. -/
def headText (visibility : Visibility) (modifier : Option ClassLine.Modifier)
    (markerFirst : Bool) : List Char :=
  match modifier with
  | none => [visibility.marker]
  | some modifier =>
      if markerFirst then visibility.marker :: (modifierText modifier ++ [' '])
      else modifierText modifier ++ [' ', visibility.marker]

/-- The text between the parentheses. -/
def parametersText : Option (Phrase [')']) → List Char
  | none => []
  | some phrase => phrase.text

/-- The return type with its colon, if there is one. -/
def returnText (colonApart : Bool) : Option TypeText → List Char
  | none => []
  | some type => colon colonApart ++ spaced [type.text]

/-- The line of a method. -/
def text (operation : Operation) : List Char :=
  headText operation.visibility operation.modifier operation.markerFirst ++
    (operation.name.text ++
      ('(' :: (parametersText operation.parameters ++
        (')' :: returnText operation.colonApart operation.returnType))))

/-- The method that is written. -/
def meaning (operation : Operation) : Method :=
  { name := String.ofList operation.name.text
    parameters := operation.parameters.map fun phrase => String.ofList phrase.text
    returnType := operation.returnType.map fun type => String.ofList type.text
    visibility := some operation.visibility
    isAbstract := if operation.modifier = some .abstract then some true else none
    isStatic :=
      if operation.modifier = some .static ∨ operation.modifier = some .classifier then some true
      else none }

end Operation

/-- A member of an element. A literal may have a comma behind it. -/
inductive Member where
  | field (field : Field)
  | operation (operation : Operation)
  | literal (word : Word) (comma : Bool)

namespace Member

/-- The line of a member. -/
def text : Member → List Char
  | field line => line.text
  | operation line => line.text
  | literal word comma => word.text ++ if comma then [','] else []

/-- The entry that the member makes. -/
def entry : Member → Entry
  | field line => .field line.meaning
  | operation line => .method line.meaning
  | literal word _ => .literal (String.ofList word.text)

/-- The attribute that the member is. -/
def asAttribute? : Member → Option Attribute
  | field line => some line.meaning
  | _ => none

/-- The method that the member is. -/
def asMethod? : Member → Option Method
  | operation line => some line.meaning
  | _ => none

/-- The literal that the member is. -/
def asLiteral? : Member → Option String
  | literal word _ => some (String.ofList word.text)
  | _ => none

end Member

/-! ## Declarations -/

/-- The words with which declarations begin. -/
def classWord : Word :=
  ⟨"class".toList, by decide, List.all_eq_true.1 (by decide)⟩

def abstractWord : Word :=
  ⟨"abstract".toList, by decide, List.all_eq_true.1 (by decide)⟩

def interfaceWord : Word :=
  ⟨"interface".toList, by decide, List.all_eq_true.1 (by decide)⟩

def enumWord : Word :=
  ⟨"enum".toList, by decide, List.all_eq_true.1 (by decide)⟩

/-- What is declared. Only a class may be abstract or have a stereotype. -/
inductive Keyword where
  | classifier (isAbstract : Bool) (stereotype : Option (Phrase ['>']))
  | interface
  | enumeration

namespace Keyword

/-- The type of the declared element. -/
def type : Keyword → String
  | classifier _ _ => "Class"
  | interface => "Interface"
  | enumeration => "Enum"

/-- Whether the declared class is abstract. -/
def isAbstract : Keyword → Option Bool
  | classifier isAbstract _ => some isAbstract
  | _ => none

/-- The stereotype of the declared class. -/
def stereotype : Keyword → Option (Phrase ['>'])
  | classifier _ stereotype => stereotype
  | _ => none

/-- The list of literals that a declared enumeration starts with. -/
def literals : Keyword → Option (List String)
  | enumeration => some []
  | _ => none

end Keyword

/-- A declaration, with or without an opening brace. -/
structure Declared where
  keyword : Keyword
  name : Name
  aliasWord : Option Word
  opened : Bool

namespace Declared

/-- The pieces of a stereotype, if there is one. -/
def stereotypePieces : Option (Phrase ['>']) → List (List Char)
  | none => []
  | some phrase => ['<' :: '<' :: (phrase.text ++ ['>', '>'])]

/-- The opening brace, if there is one. -/
def bracePieces (opened : Bool) : List (List Char) :=
  if opened then [['\x7b']] else []

/-- The pieces behind the name and its alias. -/
def furtherPieces (declared : Declared) : List (List Char) :=
  stereotypePieces declared.keyword.stereotype ++ bracePieces declared.opened

/-- The name with all that follows it. -/
def namedText (declared : Declared) : List Char :=
  declared.name.written ++ spaced (aliasPieces declared.aliasWord ++ declared.furtherPieces)

/-- The keyword with a name behind it. -/
def keywordText (keyword : Keyword) (named : List Char) : List Char :=
  match keyword with
  | .classifier true _ => abstractWord.text ++ spaced [classWord.text, named]
  | .classifier false _ => classWord.text ++ spaced [named]
  | .interface => interfaceWord.text ++ spaced [named]
  | .enumeration => enumWord.text ++ spaced [named]

/-- The line of a declaration. -/
def text (declared : Declared) : List Char :=
  keywordText declared.keyword declared.namedText

/-- The element that the line declares. -/
def meaning (declared : Declared) : Element :=
  { type := declared.keyword.type
    name := String.ofList declared.name.text
    aliasName := declared.aliasWord.map fun word => String.ofList word.text
    isAbstract := declared.keyword.isAbstract
    stereotype := declared.keyword.stereotype.map fun phrase => String.ofList phrase.text
    values := declared.keyword.literals }

end Declared

/-! ## Relationships -/

/-- The shaft of a connector: at least one dash, or at least two dots. -/
inductive Shaft where
  | dashes (more : Nat)
  | dots (more : Nat)

/-- The shaft as it is written. -/
def Shaft.text : Shaft → List Char
  | dashes more => List.replicate (more + 1) '-'
  | dots more => List.replicate (more + 2) '.'

/-- A connector with any adornments. -/
structure Glyph where
  left : List Char
  shaft : Shaft
  right : List Char
  leftAdorns : ∀ char ∈ left, char ∈ AdornedConnector.leftAdornments
  rightAdorns : ∀ char ∈ right, char ∈ AdornedConnector.rightAdornments

/-- The connector that the glyph is. -/
def Glyph.connector (glyph : Glyph) : AdornedConnector :=
  ⟨glyph.left, glyph.shaft.text, glyph.right⟩

/-- The quoted cardinalities of a relationship: none, one, or one at each
end. -/
inductive Ends where
  | unmarked
  | source (quote : Quote)
  | both (first second : Quote)

namespace Ends

/-- The cardinality behind the source. -/
def first : Ends → Option Quote
  | unmarked => none
  | source quote => some quote
  | both quote _ => some quote

/-- The cardinality in front of the target. -/
def second : Ends → Option Quote
  | both _ quote => some quote
  | _ => none

/-- The marks that may not stand in a label: a quoted text in it would count as
a cardinality that is missing. -/
def reserved : Ends → List Char
  | both _ _ => []
  | _ => ['"']

end Ends

/-- A relationship. Its source must not be a word that begins a declaration. -/
structure Link where
  source : Word
  ends : Ends
  glyph : Glyph
  target : Word
  label : Option (Phrase ends.reserved)
  undeclaring : source.text ∉ [classWord.text, interfaceWord.text, enumWord.text]

namespace Link

/-- The piece of a quoted text, if there is one. -/
def quotePieces : Option Quote → List (List Char)
  | none => []
  | some quote => [quote.written]

/-- The line of a relationship. -/
def text (link : Link) : List Char :=
  link.source.text ++
    spaced (quotePieces link.ends.first ++ link.glyph.connector.text ::
      (quotePieces link.ends.second ++ link.target.text :: labelPieces link.label))

/-- The relationship that is written. -/
def meaning (link : Link) : Relationship :=
  { kind := RelationshipKind.ofConnector link.glyph.connector.text
    source := String.ofList link.source.text
    target := String.ofList link.target.text
    label := link.label.map fun phrase => String.ofList phrase.text
    sourceCardinality :=
      link.ends.first.map fun quote => Cardinality.ofText (String.ofList quote.text)
    targetCardinality :=
      link.ends.second.map fun quote => Cardinality.ofText (String.ofList quote.text) }

end Link

/-! ## Items -/

/-- An item of a class diagram: a declaration with members behind it, or a
relationship. -/
inductive ClassItem where
  | element (declared : Declared) (members : List Member)
  | link (link : Link)

namespace ClassItem

/-- The lines of an item. -/
def texts : ClassItem → List (List Char)
  | element declared members => declared.text :: members.map Member.text
  | link line => [line.text]

/-- The element that an item declares, with its members. Literals belong to an
enumeration only. -/
def element? : ClassItem → Option Element
  | element declared members =>
      some { declared.meaning with
        attributes := members.filterMap Member.asAttribute?
        methods := members.filterMap Member.asMethod?
        values := declared.keyword.literals.map fun _ => members.filterMap Member.asLiteral? }
  | link _ => none

/-- The relationship that an item states. -/
def relationship? : ClassItem → Option Relationship
  | element _ _ => none
  | link line => some line.meaning

/-- The model of some items. -/
def model (items : List ClassItem) : Model :=
  { kind := .classes
    elements := items.filterMap element?
    relationships := items.filterMap relationship? }

end ClassItem

end DiagramGraph.Written
