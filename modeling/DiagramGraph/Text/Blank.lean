import DiagramGraph.Text.CodeRange

/-!
# Blank characters and trimming

A blank is a character with the Unicode property White_Space. Lines, captured
texts and context values are trimmed of blanks at both ends before they are
read.
-/

namespace DiagramGraph.Text

/-- The code points with the property White_Space. -/
def blankRanges : List CodeRange :=
  [ ⟨0x9, 0xd⟩, ⟨0x20, 0x20⟩, ⟨0x85, 0x85⟩, ⟨0xa0, 0xa0⟩, ⟨0x1680, 0x1680⟩,
    ⟨0x2000, 0x200a⟩, ⟨0x2028, 0x2029⟩, ⟨0x202f, 0x202f⟩, ⟨0x205f, 0x205f⟩,
    ⟨0x3000, 0x3000⟩ ]

/-- Whether a character is blank. -/
def isBlank (char : Char) : Bool :=
  CodeRange.covers blankRanges char.toNat

/-- Drop the blanks at the start of a text. -/
def trimStart (text : List Char) : List Char :=
  text.dropWhile isBlank

/-- Drop the blanks at the end of a text. -/
def trimEnd (text : List Char) : List Char :=
  (trimStart text.reverse).reverse

/-- Drop the blanks at both ends of a text. -/
def trim (text : List Char) : List Char :=
  trimEnd (trimStart text)

/-- The trimmed text, unless nothing is left of it. -/
def nonBlank? (text : List Char) : Option (List Char) :=
  match trim text with
  | [] => none
  | char :: rest => some (char :: rest)

end DiagramGraph.Text
