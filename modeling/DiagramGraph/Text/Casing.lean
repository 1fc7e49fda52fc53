import DiagramGraph.Text.CaseRuns

/-!
# Upper and lower case

Case is mapped character by character with the full Unicode mappings, without
regard to context: a character may become several, and a capital sigma always
becomes the same small sigma. ASCII folding, which leaves every other
character alone, is separate.
-/

namespace DiagramGraph.Text

/-- Look a character up among the expansions, then among the runs; one that is
in neither maps to itself. -/
def mapCase (expansions : List (Nat × List Nat)) (runs : List CaseRun) (char : Char) :
    List Char :=
  match expansions.lookup char.toNat with
  | some codes => codes.map Char.ofNat
  | none =>
      match runs.find? fun run => run.holds char.toNat with
      | some run => [Char.ofNat (run.apply char.toNat)]
      | none => [char]

/-- The upper-case form of a character. -/
def upperChar (char : Char) : List Char :=
  if char.toNat < 0x80 then [char.toUpper] else mapCase upperExpansions upperRuns char

/-- The lower-case form of a character. -/
def lowerChar (char : Char) : List Char :=
  if char.toNat < 0x80 then [char.toLower] else mapCase lowerExpansions lowerRuns char

/-- Upper-case the first character and lower-case the others. -/
def capitalize : List Char → List Char
  | [] => []
  | first :: rest => upperChar first ++ rest.flatMap lowerChar

/-- Lower-case the ASCII letters only. -/
def asciiLower (text : List Char) : List Char :=
  text.map Char.toLower

end DiagramGraph.Text
