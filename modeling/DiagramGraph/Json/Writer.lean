import DiagramGraph.Json.Number
import DiagramGraph.Json.Text

/-!
# Writing JSON

There are two layouts: one without any blanks, and one that puts every item on
a line of its own, indented by two spaces per level. An empty container is
written as its two brackets in both.
-/

namespace DiagramGraph.Json

/-- Where blanks are put: before each item, by the number of containers around
it, and after the colon behind a key. -/
structure Layout where
  line : Nat → List Char
  afterColon : List Char

namespace Layout

/-- No blanks at all. -/
def compact : Layout :=
  { line := fun _ => [], afterColon := [] }

/-- Every item on a line of its own. -/
def indented : Layout :=
  { line := fun depth => '\n' :: List.replicate (2 * depth) ' ', afterColon := [' '] }

end Layout

namespace Value

/-- A key with its colon. -/
def writtenKey (layout : Layout) (key : String) : List Char :=
  writtenString key.toList ++ ':' :: layout.afterColon

mutual

/-- The text of a value that has `depth` containers around it. -/
def write (layout : Layout) (depth : Nat) : Value → List Char
  | .null => ['n', 'u', 'l', 'l']
  | .boolean true => ['t', 'r', 'u', 'e']
  | .boolean false => ['f', 'a', 'l', 's', 'e']
  | .number value => value.text
  | .string text => writtenString text.toList
  | .array [] => ['[', ']']
  | .array (first :: rest) =>
      '[' :: layout.line (depth + 1) ++ first.write layout (depth + 1) ++
        writeItems layout (depth + 1) rest ++ layout.line depth ++ [']']
  | .object [] => ['\x7b', '\x7d']
  | .object ((key, value) :: rest) =>
      '\x7b' :: layout.line (depth + 1) ++ writtenKey layout key ++
        value.write layout (depth + 1) ++ writeFields layout (depth + 1) rest ++
        layout.line depth ++ ['\x7d']

/-- The further items of an array, each behind a comma. -/
def writeItems (layout : Layout) (depth : Nat) : List Value → List Char
  | [] => []
  | item :: rest =>
      ',' :: layout.line depth ++ item.write layout depth ++ writeItems layout depth rest

/-- The further fields of an object, each behind a comma. -/
def writeFields (layout : Layout) (depth : Nat) : List (String × Value) → List Char
  | [] => []
  | (key, value) :: rest =>
      ',' :: layout.line depth ++ writtenKey layout key ++ value.write layout depth ++
        writeFields layout depth rest

end

/-- The text of a value without blanks. -/
def compact (value : Value) : String :=
  String.ofList (value.write .compact 0)

/-- The text of a value with one item per line. -/
def indented (value : Value) : String :=
  String.ofList (value.write .indented 0)

end Value

end DiagramGraph.Json
