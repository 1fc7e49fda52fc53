import DiagramGraph.Text.Word

/-!
# Identifiers of nodes

All nodes of a graph share a base that ends in `#`. The identifier of a node is
the base followed by a local name of ASCII word characters; every other
character of a name is replaced by an underscore. The diagram itself is
identified by the base without that final `#`.
-/

namespace DiagramGraph.Identifier

open DiagramGraph.Text

/-- A name with every character replaced that may not stand in a local name. -/
def sanitize (name : List Char) : List Char :=
  name.map fun char => if isAsciiWord char then char else '_'

/-- The base with a final `#`, which is added unless it is there already. -/
def normalize (base : List Char) : List Char :=
  if base.getLast? = some '#' then base else base ++ ['#']

/-- The identifier of a local name. -/
def mint (base name : List Char) : List Char :=
  normalize base ++ sanitize name

/-- The identifier of the diagram. -/
def diagram (base : List Char) : List Char :=
  (normalize base).dropLast

/-- A word with a number behind it. -/
def numbered (word : String) (index : Nat) : List Char :=
  word.toList ++ '_' :: Nat.toDigits 10 index

/-- The normalized base is the diagram's identifier and a final `#`. -/
theorem normalize_eq (base : List Char) : normalize base = diagram base ++ ['#'] := by
  unfold diagram normalize
  split
  · next ends =>
      obtain ⟨front, rfl⟩ := List.getLast?_eq_some_iff.1 ends
      simp
  · simp

end DiagramGraph.Identifier
