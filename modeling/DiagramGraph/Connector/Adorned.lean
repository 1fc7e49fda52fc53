import DiagramGraph.Diagram.Model
import DiagramGraph.Text.Scan

/-!
# Connectors of class diagrams

A connector has a shaft of dashes or dots and may be adorned at both ends. The
kind of relationship is decided by a table of fragments: the first row with a
fragment that occurs anywhere in the connector counts.
-/

namespace DiagramGraph

open DiagramGraph.Text

/-- A connector with its adornments. -/
structure AdornedConnector where
  left : List Char
  shaft : List Char
  right : List Char
  deriving DecidableEq, Repr

namespace AdornedConnector

/-- The connector as it is written. -/
def text (connector : AdornedConnector) : List Char :=
  connector.left ++ connector.shaft ++ connector.right

/-- The characters that may adorn the left end. -/
def leftAdornments : List Char :=
  ['<', '*', 'o', '+', '#', 'x', '}', '^', '|']

/-- The characters that may adorn the right end. -/
def rightAdornments : List Char :=
  ['|', '>', '*', 'o', '+', '#', 'x', '{', '^']

/-- The shaft at the start of a text: dashes, or at least two dots. -/
def shaft? : List Char → Option (List Char × List Char)
  | '-' :: rest => run? (· == '-') ('-' :: rest)
  | '.' :: '.' :: rest => run? (· == '.') ('.' :: '.' :: rest)
  | _ => none

/-- The connector at the start of a text. -/
def read? (text : List Char) : Option (AdornedConnector × List Char) := do
  let left := text.takeWhile leftAdornments.contains
  let (shaft, rest) ← shaft? (text.dropWhile leftAdornments.contains)
  let right := rest.takeWhile rightAdornments.contains
  return (⟨left, shaft, right⟩, rest.dropWhile rightAdornments.contains)

end AdornedConnector

/-! ## The kind of a connector -/

/-- Whether a fragment occurs in a text. -/
def occursIn (fragment : List Char) : List Char → Bool
  | [] => fragment.isEmpty
  | char :: rest => fragment.isPrefixOf (char :: rest) || occursIn fragment rest

/-- The fragments that show a kind of relationship, in the order in which they
count. -/
def kindFragments : List (List String × RelationshipKind) :=
  [ (["<|--", "--|>"], .extension),
    (["<|..", "..|>"], .implementation),
    (["*--", "--*"], .composition),
    (["o--", "--o"], .aggregation),
    (["-->", "<--"], .dependency),
    (["..>", "<.."], .dependency) ]

/-- The kind of relationship that a connector shows; one without a telling
fragment is an association. -/
def RelationshipKind.ofConnector (connector : List Char) : RelationshipKind :=
  match kindFragments.find? fun (fragments, _) =>
      fragments.any fun fragment => occursIn fragment.toList connector with
  | some (_, kind) => kind
  | none => .association

end DiagramGraph
