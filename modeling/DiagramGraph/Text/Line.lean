import DiagramGraph.Text.Blank
import DiagramGraph.Text.Split

/-!
# The content lines of a source

Everything that is drawn stands on a line of its own. A line is trimmed, and
only the lines with content are looked at: an empty line says nothing, a line
that begins with `@` is a directive and one that begins with an apostrophe is
a comment. A carriage return before the line end is blank and goes with the
trimming.
-/

namespace DiagramGraph.Text

/-- The lines of a source. -/
def lines (source : List Char) : List (List Char) :=
  pieces '\n' source

/-- Whether a trimmed line is content. -/
def isContent : List Char → Bool
  | [] => false
  | char :: _ => char != '@' && char != '\''

/-- The trimmed lines that carry content, in order. -/
def contentLines (source : List Char) : List (List Char) :=
  ((lines source).map trim).filter isContent

end DiagramGraph.Text
