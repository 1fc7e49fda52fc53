/-!
# Cardinalities

How many things stand at one end of a relationship. Five cardinalities have
names of their own; any other text is kept as it is written.
-/

namespace DiagramGraph

/-- The multiplicity at one end of a relationship. -/
inductive Cardinality where
  | one
  | zeroOrOne
  | zeroOrMany
  | oneOrMany
  | many
  | custom (text : String)
  deriving DecidableEq, Repr

namespace Cardinality

/-- The text of a cardinality. -/
def text : Cardinality → String
  | .one => "1"
  | .zeroOrOne => "0..1"
  | .zeroOrMany => "0..*"
  | .oneOrMany => "1..*"
  | .many => "*"
  | .custom text => text

/-- The cardinality that a text denotes. -/
def ofText (text : String) : Cardinality :=
  if text = "1" then .one
  else if text = "0..1" then .zeroOrOne
  else if text = "0..*" then .zeroOrMany
  else if text = "1..*" then .oneOrMany
  else if text = "*" then .many
  else .custom text

/-- Every text is kept. -/
@[simp]
theorem text_ofText (text : String) : (ofText text).text = text := by
  unfold ofText
  repeat' split
  all_goals simp_all [Cardinality.text]

end Cardinality

end DiagramGraph
