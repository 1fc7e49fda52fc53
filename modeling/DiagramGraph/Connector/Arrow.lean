import DiagramGraph.Text.Scan

/-!
# Arrows and links

The arrows of sequence diagrams and the links of use-case diagrams. Both may
begin with `<`. An arrow goes on with a dash and then with dashes and heads in
any order; a link has a shaft of dashes or of at least two dots and may end in
`>`.
-/

namespace DiagramGraph

open DiagramGraph.Text

/-- The opening `<` of a connector, if it has one, and the text behind it. -/
def openHead : List Char → List Char × List Char
  | '<' :: rest => (['<'], rest)
  | text => ([], text)

/-- The closing `>` of a connector, if it has one, and the text behind it. -/
def closeHead : List Char → List Char × List Char
  | '>' :: rest => (['>'], rest)
  | text => ([], text)

namespace Arrow

/-- Whether a character may stand in an arrow behind its first dash. -/
def isPart (char : Char) : Bool :=
  char == '-' || char == '>'

/-- The arrow at the start of a text. -/
def read? (text : List Char) : Option (List Char × List Char) :=
  let (head, rest) := openHead text
  match rest with
  | '-' :: rest => (run? isPart rest).map fun (parts, rest) => (head ++ '-' :: parts, rest)
  | _ => none

/-- Whether an arrow is dashed, which shows an asynchronous message. -/
def isDashed : List Char → Bool
  | '-' :: '-' :: _ => true
  | _ :: rest => isDashed rest
  | [] => false

end Arrow

namespace Link

/-- The shaft at the start of a text: at least two dots, or dashes. -/
def shaft? : List Char → Option (List Char × List Char)
  | '.' :: '.' :: rest => run? (· == '.') ('.' :: '.' :: rest)
  | '-' :: rest => run? (· == '-') ('-' :: rest)
  | _ => none

/-- The link at the start of a text. -/
def read? (text : List Char) : Option (List Char × List Char) := do
  let (head, rest) := openHead text
  let (shaft, rest) ← shaft? rest
  let (tail, rest) := closeHead rest
  return (head ++ shaft ++ tail, rest)

/-- Whether a link is dotted. -/
def isDotted (link : List Char) : Bool :=
  link.contains '.'

end Link

end DiagramGraph
