import DiagramGraph.Diagram.Cardinality
import DiagramGraph.Text.Scan

/-!
# Crow's-foot connectors

In an entity diagram both ends of a connector show a cardinality by a marker of
two characters. The markers are read off the first and the last two characters
of the connector, in either orientation.
-/

namespace DiagramGraph

open DiagramGraph.Text

/-- The two ends of a connector. -/
inductive ConnectorEnd where
  | left
  | right
  deriving DecidableEq, Repr

namespace CrowsFoot

/-! ## Reading a connector -/

/-- Whether characters can stand before the shaft. -/
def isLeftEnd : List Char → Bool
  | [] => true
  | [outer] => outer == '|' || outer == 'o' || outer == '\x7d'
  | [outer, inner] =>
      (outer == '|' || outer == 'o' || outer == '\x7d') && (inner == '|' || inner == 'o')
  | _ => false

/-- Whether characters can stand behind the shaft. -/
def isRightEnd : List Char → Bool
  | [] => true
  | [outer] => outer == '|' || outer == 'o' || outer == '\x7b'
  | [inner, outer] =>
      (inner == '|' || inner == 'o') && (outer == '|' || outer == 'o' || outer == '\x7b')
  | _ => false

/-- The characters of left ends. -/
def isLeftChar (char : Char) : Bool :=
  char == '|' || char == 'o' || char == '\x7d'

/-- The characters of right ends. -/
def isRightChar (char : Char) : Bool :=
  char == '|' || char == 'o' || char == '\x7b'

/-- The shaft, of exactly two dashes or dots. -/
def shaft? : List Char → Option (List Char × List Char)
  | '-' :: '-' :: rest => some (['-', '-'], rest)
  | '.' :: '.' :: rest => some (['.', '.'], rest)
  | _ => none

/-- The connector at the start of a text, as it is written. -/
def read? (text : List Char) : Option (List Char × List Char) := do
  let left := text.takeWhile isLeftChar
  let (shaft, rest) ← shaft? (text.dropWhile isLeftChar)
  let right := rest.takeWhile isRightChar
  if isLeftEnd left && isRightEnd right then
    return (left ++ shaft ++ right, rest.dropWhile isRightChar)
  else none

/-! ## Cardinalities -/

/-- The markers of each cardinality. -/
def markers : List (List String × Cardinality) :=
  [ (["||"], .one),
    (["|o", "o|"], .zeroOrOne),
    (["\x7do", "o\x7b"], .zeroOrMany),
    (["\x7d|", "|\x7b"], .oneOrMany) ]

/-- The two characters at one end of a connector; fewer, if it has fewer. -/
def window (connector : List Char) : ConnectorEnd → List Char
  | .left => connector.take 2
  | .right => connector.drop (connector.length - 2)

/-- The cardinality that a connector shows at one end. An end without marker is
unrestricted. -/
def cardinality (connector : List Char) (side : ConnectorEnd) : Cardinality :=
  match markers.find? fun (texts, _) =>
      texts.any fun text => text.toList == window connector side with
  | some (_, cardinality) => cardinality
  | none => .many

end CrowsFoot

end DiagramGraph
