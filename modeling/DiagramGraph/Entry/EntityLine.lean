import DiagramGraph.Connector.CrowsFoot
import DiagramGraph.Entry.Declaration

/-!
# Lines of entity diagrams

A line declares an entity, or holds a relation between two entities, or gives
an attribute of the entity declared last. A relation may stand anywhere in a
line, at the first word from which it can be read, and is looked for before an
attribute.
-/

namespace DiagramGraph.EntityLine

open DiagramGraph.Text

/-- The entity that a line declares. -/
def entity? (line : List Char) : Option Element :=
  (Declaration.read? "entity".toList line).map fun declaration => declaration.element "Entity"

/-- The relation at the start of a text. -/
def relationAt? (text : List Char) : Option Relationship := do
  let (source, rest) ← leadingWord? text
  let (connector, rest) ← CrowsFoot.read? rest
  let rest ← gap? rest
  let (target, rest) ← word? rest
  return {
    kind := .entityRelation
    source := String.ofList source
    target := String.ofList target
    label := (label? rest).map String.ofList
    sourceCardinality := some (CrowsFoot.cardinality connector .left)
    targetCardinality := some (CrowsFoot.cardinality connector .right) }

/-- The relation that a line holds. -/
def relation? (line : List Char) : Option Relationship :=
  firstAtWord relationAt? false line

/-- The text behind the star of a mandatory attribute, or the text itself. -/
def skipStar : List Char → List Char
  | '*' :: rest => rest
  | text => text

/-- The text between parentheses, with these, if there is one. -/
def typeArguments (text : List Char) : List Char :=
  match text with
  | '(' :: rest =>
      match upTo? ')' rest with
      | some (inner, _) => '(' :: inner ++ [')']
      | none => []
  | _ => []

/-- The type at the start of a text: a dotted path, possibly with arguments in
parentheses. -/
def type? (text : List Char) : Option (List Char) :=
  (run? isPathChar text).map fun (path, rest) => path ++ typeArguments rest

/-- The attribute that a line gives. -/
def attribute? (line : List Char) : Option Attribute := do
  let (name, rest) ← word? (trimStart (skipStar line))
  match trimStart rest with
  | ':' :: rest =>
      let type ← type? (trimStart rest)
      return { name := String.ofList name, datatype := some (String.ofList type) }
  | _ => none

/-- The entry that a line makes. -/
def entryOf? (line : List Char) : Option Entry :=
  (entity? line).map Entry.element <|>
    (relation? line).map Entry.relationship <|> (attribute? line).map Entry.field

end DiagramGraph.EntityLine
