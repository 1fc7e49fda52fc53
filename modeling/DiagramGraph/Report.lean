import DiagramGraph.Diagram.Model

/-!
# Reports

A report shows a model to a human reader, line by line: a header with a rule
below it, the elements each followed by its members, and the relationships. A
section without content is left out together with its heading.
-/

namespace DiagramGraph.Report

/-- A text in front of which something stands, if there is any. -/
def after (mark : List Char) : Option (List Char) → List Char
  | some text => mark ++ text
  | none => []

/-- A noun with its number. -/
def counted (count : Nat) (noun : String) : List Char :=
  Nat.toDigits 10 count ++ ' ' :: noun.toList ++ if count = 1 then [] else ['s']

/-- The first line. -/
def header (model : Model) : List Char :=
  model.kind.name.toList ++ " diagram  ".toList ++ counted model.elements.length "element" ++
    ", ".toList ++ counted model.relationships.length "relationship"

/-- The second line, as long as the first. -/
def rule (model : Model) : List Char :=
  List.replicate (header model).length '─'

/-- The sign of a visibility, or a blank. -/
def visibilitySign (visibility : Option Visibility) : Char :=
  (visibility.map Visibility.marker).getD ' '

/-- The opening of a member line. -/
def memberIndent (sign : Char) : List Char :=
  [' ', ' ', ' ', ' ', sign, ' ']

/-- The line of an element. -/
def elementLine (element : Element) : List Char :=
  [' ', ' '] ++ element.type.toList ++ ' ' :: element.name.toList ++
    after " as ".toList (element.aliasName.map String.toList) ++
    (match element.stereotype with
      | some stereotype => " <<".toList ++ stereotype.toList ++ ">>".toList
      | none => []) ++
    if element.isAbstract = some true then " (abstract)".toList else []

/-- The line of an attribute. -/
def attributeLine (field : Attribute) : List Char :=
  memberIndent (visibilitySign field.visibility) ++ field.name.toList ++
    after ": ".toList (field.datatype.map String.toList)

/-- The line of a method. -/
def methodLine (method : Method) : List Char :=
  memberIndent (visibilitySign method.visibility) ++ method.name.toList ++
    '(' :: (method.parameters.getD "").toList ++
    ')' :: after ": ".toList (method.returnType.map String.toList)

/-- The line of a literal. -/
def valueLine (value : String) : List Char :=
  memberIndent '•' ++ value.toList

/-- The lines of an element and its members. -/
def elementLines (element : Element) : List (List Char) :=
  elementLine element :: element.attributes.map attributeLine ++
    element.methods.map methodLine ++ (element.values.getD []).map valueLine

/-- A cardinality in quotes. -/
def cardinalityPart : Option Cardinality → List Char
  | some cardinality => ' ' :: '"' :: cardinality.text.toList ++ ['"']
  | none => []

/-- The line of a relationship. A label goes before a message. -/
def relationshipLine (relationship : Relationship) : List Char :=
  [' ', ' '] ++ relationship.source.toList ++
    cardinalityPart relationship.sourceCardinality ++
    ' ' :: relationship.kind.name.toList ++
    (if relationship.synchronous = some false then " (async)".toList else []) ++
    cardinalityPart relationship.targetCardinality ++
    ' ' :: relationship.target.toList ++
    after [' ', ' '] ((relationship.label <|> relationship.message).map String.toList)

/-- A heading with an empty line before it, and the lines below it; nothing if
there are none. -/
def block (heading : String) : List (List Char) → List (List Char)
  | [] => []
  | line :: rest => [] :: heading.toList :: line :: rest

/-- All lines of a report. -/
def lines (model : Model) : List (List Char) :=
  header model :: rule model ::
    block "ELEMENTS" (model.elements.flatMap elementLines) ++
      block "RELATIONSHIPS" (model.relationships.map relationshipLine)

/-- The report with a line end after every line. -/
def text (model : Model) : String :=
  String.ofList ((lines model).flatMap fun line => line ++ ['\n'])

end DiagramGraph.Report
