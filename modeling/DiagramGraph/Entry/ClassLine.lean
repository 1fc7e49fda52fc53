import DiagramGraph.Connector.Adorned
import DiagramGraph.Entry.Declaration

/-!
# Lines of class diagrams

A line declares a class, an interface or an enumeration, or relates two of
them, or is a member: an attribute, a method or a literal. The rules are tried
in this order.
-/

namespace DiagramGraph.ClassLine

open DiagramGraph.Text

/-! ## Declarations -/

/-- Whether a class is abstract, and the text behind its keyword. -/
def classHead? (line : List Char) : Option (Bool × List Char) := do
  let (word, rest) ← leadingWord? line
  if word = "class".toList then return (false, rest)
  else if word = "abstract".toList then
    let (word, rest) ← leadingWord? rest
    if word = "class".toList then return (true, rest) else none
  else none

/-- The text up to the first `>>`. -/
def untilClosing? : List Char → Option (List Char)
  | '>' :: '>' :: _ => some []
  | char :: rest => (untilClosing? rest).map (char :: ·)
  | [] => none

/-- The stereotype between `<<` and `>>` at the start of a text. It has at least
one character, even if that character belongs to a `>>`. -/
def stereotype? (text : List Char) : Option (List Char) :=
  match trimStart text with
  | '<' :: '<' :: first :: rest =>
      (untilClosing? rest).bind fun inner => nonBlank? (first :: inner)
  | _ => none

/-- The class that a line declares. -/
def class? (line : List Char) : Option Element := do
  let (isAbstract, rest) ← classHead? line
  let declaration ← Declaration.named? rest
  return { declaration.element "Class" with
    isAbstract := some isAbstract
    stereotype := (stereotype? declaration.rest).map String.ofList }

/-- The interface that a line declares. -/
def interface? (line : List Char) : Option Element :=
  (Declaration.read? "interface".toList line).map fun declaration =>
    declaration.element "Interface"

/-- The enumeration that a line declares. It has a list of literals from the
start. -/
def enumeration? (line : List Char) : Option Element :=
  (Declaration.read? "enum".toList line).map fun declaration =>
    { declaration.element "Enum" with values := some [] }

/-- The element that a line declares. -/
def declaration? (line : List Char) : Option Element :=
  class? line <|> interface? line <|> enumeration? line

/-! ## Relationships -/

/-- The text behind a quoted cardinality and the gap that has to follow it; a
text that does not begin with a quote is left as it is. -/
def skipQuoted? (text : List Char) : Option (List Char) :=
  match text with
  | '"' :: rest => (upTo? '"' rest).bind fun (_, rest) => gap? rest
  | text => some text

/-- The non-empty quoted texts of a line. `inside` holds what has been read
since an opening quote, latest first. A quote directly behind an opening quote
opens anew. -/
def quotedTexts (inside : Option (List Char)) : List Char → List (List Char)
  | [] => []
  | char :: rest =>
      if char = '"' then
        match inside with
        | some (last :: others) => (last :: others).reverse :: quotedTexts none rest
        | _ => quotedTexts (some []) rest
      else quotedTexts (inside.map (char :: ·)) rest

/-- The cardinality that stands at a position among the quoted texts of a
line. -/
def quotedCardinality (line : List Char) (position : Nat) : Option Cardinality :=
  (quotedTexts none line)[position]?.map fun text => Cardinality.ofText (String.ofList text)

/-- The parts of a relationship line. -/
structure RelationshipParts where
  source : List Char
  connector : AdornedConnector
  target : List Char
  label : Option (List Char)
  deriving DecidableEq, Repr

/-- A relationship line in parts: two words with a connector between them, each
of which may have a quoted cardinality on the side of the connector, and
possibly a label. -/
def relationshipParts? (line : List Char) : Option RelationshipParts := do
  let (source, rest) ← leadingWord? line
  let rest ← skipQuoted? rest
  let (connector, rest) ← AdornedConnector.read? rest
  let rest ← gap? rest
  let rest ← skipQuoted? rest
  let (target, rest) ← word? rest
  return { source, connector, target, label := label? rest }

/-- The relationship that a line states. Its cardinalities are the first two
quoted texts, wherever on the line they stand. -/
def relationship? (line : List Char) : Option Relationship :=
  (relationshipParts? line).map fun parts =>
    { kind := RelationshipKind.ofConnector parts.connector.text
      source := String.ofList parts.source
      target := String.ofList parts.target
      label := parts.label.map String.ofList
      sourceCardinality := quotedCardinality line 0
      targetCardinality := quotedCardinality line 1 }

/-! ## Members -/

/-- A modifier in braces. -/
inductive Modifier where
  | abstract
  | static
  | classifier
  deriving DecidableEq, Repr

/-- The modifiers as they are written. -/
def modifiers : List (List Char × Modifier) :=
  [ ("\x7babstract\x7d".toList, .abstract),
    ("\x7bstatic\x7d".toList, .static),
    ("\x7bclassifier\x7d".toList, .classifier) ]

/-- The modifier at the start of a text, and the text behind it and its
blanks. -/
def modifier (text : List Char) : Option Modifier × List Char :=
  match modifiers.findSome? fun (written, modifier) =>
      (after? written text).map fun rest => (modifier, rest) with
  | some (modifier, rest) => (some modifier, trimStart rest)
  | none => (none, text)

/-- The visibility marker at the start of a text, and the text behind it. -/
def marker (text : List Char) : Option (List Char) × List Char :=
  match text with
  | char :: rest => if Visibility.isMarker char then (some [char], rest) else (none, text)
  | [] => (none, [])

/-- What stands before the name of a member: a visibility marker, on either side
of a modifier. Of two markers the first counts. -/
def memberHead (line : List Char) : Visibility × Option Modifier × List Char :=
  let (outer, rest) := marker line
  let (modifier, rest) := modifier rest
  let (inner, rest) := marker rest
  (Visibility.ofMarker (outer <|> inner), modifier, rest)

/-- The text between `<` and the first `>`, with these, if there is one. -/
def typeArguments (text : List Char) : List Char × List Char :=
  match text with
  | '<' :: rest =>
      match upTo? '>' rest with
      | some (inner, rest) => ('<' :: inner ++ ['>'], rest)
      | none => ([], text)
  | _ => ([], text)

/-- The brackets of an array type, if there are any. -/
def arrayMark : List Char → List Char × List Char
  | '[' :: ']' :: rest => (['[', ']'], rest)
  | text => ([], text)

/-- The type at the start of a text: a dotted path, possibly with arguments in
angle brackets and array brackets. -/
def type? (text : List Char) : Option (List Char × List Char) := do
  let (path, rest) ← run? isPathChar text
  let (arguments, rest) := typeArguments rest
  let (brackets, rest) := arrayMark rest
  return (path ++ arguments ++ brackets, rest)

/-- The text behind a colon with blanks around it. -/
def afterColon? (text : List Char) : Option (List Char) :=
  match trimStart text with
  | ':' :: rest => some (trimStart rest)
  | _ => none

/-- The default value behind an equals sign. -/
def default? (text : List Char) : Option (List Char) :=
  match trimStart text with
  | '=' :: rest => nonBlank? rest
  | _ => none

/-- The attribute that a line gives. A modifier is allowed and not kept. -/
def attribute? (line : List Char) : Option Attribute := do
  let (visibility, _, rest) := memberHead line
  let (name, rest) ← word? rest
  let rest ← afterColon? rest
  let (type, rest) ← type? rest
  return {
    name := String.ofList name
    datatype := some (String.ofList type)
    visibility := some visibility
    defaultValue := (default? rest).map String.ofList }

/-- The parameters between parentheses, with blanks allowed before them. -/
def parameters? (text : List Char) : Option (List Char × List Char) :=
  match trimStart text with
  | '(' :: rest => upTo? ')' rest
  | _ => none

/-- The method that a line gives. -/
def method? (line : List Char) : Option Method := do
  let (visibility, modifier, rest) := memberHead line
  let (name, rest) ← word? rest
  let (parameters, rest) ← parameters? rest
  let returnType := (afterColon? rest).bind type?
  return {
    name := String.ofList name
    parameters := (nonBlank? parameters).map String.ofList
    returnType := returnType.map fun (type, _) => String.ofList type
    visibility := some visibility
    isAbstract := if modifier = some .abstract then some true else none
    isStatic :=
      if modifier = some .static ∨ modifier = some .classifier then some true else none }

/-- The literal that a line gives: a word by itself, with or without a
comma. -/
def literal? (line : List Char) : Option (List Char) := do
  let (word, rest) ← word? line
  match trimStart rest with
  | [] => return word
  | [','] => return word
  | _ => none

/-- The member that a line gives. -/
def member? (line : List Char) : Option Entry :=
  (attribute? line).map Entry.field <|>
    (method? line).map Entry.method <|>
      (literal? line).map fun text => Entry.literal (String.ofList text)

/-- The entry that a line makes. -/
def entryOf? (line : List Char) : Option Entry :=
  (declaration? line).map Entry.element <|>
    (relationship? line).map Entry.relationship <|> member? line

end DiagramGraph.ClassLine
