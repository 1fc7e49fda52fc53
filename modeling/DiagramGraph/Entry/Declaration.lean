import DiagramGraph.Entry.Basic
import DiagramGraph.Text.Scan

/-!
# Declarations

A declaration is a keyword, a gap, a name and possibly an alias. What follows
is for the kind of diagram to read.
-/

namespace DiagramGraph

open DiagramGraph.Text

/-- A declared name, and the text behind it. -/
structure Declaration where
  name : List Char
  aliasName : Option (List Char)
  rest : List Char
  deriving DecidableEq, Repr

namespace Declaration

/-- The name and alias at the start of a text. -/
def named? (text : List Char) : Option Declaration :=
  (namePart? text).map fun (name, aliasName, rest) => ⟨name, aliasName, rest⟩

/-- The declaration of a line that begins with a certain keyword. -/
def read? (keyword line : List Char) : Option Declaration := do
  let (word, rest) ← leadingWord? line
  if word = keyword then named? rest else none

/-- The declaration of a line that begins with a keyword from a table, with the
type of element that the keyword stands for. -/
def readAny? (table : List (String × String)) (line : List Char) :
    Option (String × Declaration) := do
  let (word, rest) ← leadingWord? line
  let type ← table.lookup (String.ofList word)
  let declaration ← named? rest
  return (type, declaration)

/-- The element of the given type that a declaration introduces. -/
def element (declaration : Declaration) (type : String) : Element :=
  { type
    name := String.ofList declaration.name
    aliasName := declaration.aliasName.map String.ofList }

end Declaration

end DiagramGraph
