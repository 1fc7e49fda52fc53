import DiagramGraph.Entry.Declaration
import DiagramGraph.Text.Casing

/-!
# Lines of other diagrams

In a diagram of any other kind, a word and a name at the start of a line make
an element whose type is the word, capitalised. There are no relationships.
-/

namespace DiagramGraph.PairLine

open DiagramGraph.Text

/-- The element that a line names. -/
def element? (line : List Char) : Option Element := do
  let (word, rest) ← leadingWord? line
  let (name, _) ← name? rest
  return { type := String.ofList (capitalize word), name := String.ofList name }

/-- The entry that a line makes. -/
def entryOf? (line : List Char) : Option Entry :=
  (element? line).map Entry.element

end DiagramGraph.PairLine
