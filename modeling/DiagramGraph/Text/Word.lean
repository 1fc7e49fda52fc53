import DiagramGraph.Text.WordRanges

/-!
# Word characters

Names in a diagram are runs of word characters: letters, marks, decimal
digits, connector punctuation and the two join controls. Among the ASCII
characters these are the letters, the digits and the underscore.
-/

namespace DiagramGraph.Text

/-- An ASCII letter, an ASCII digit or the underscore. -/
def isAsciiWord (char : Char) : Bool :=
  char.isAlphanum || char == '_'

/-- Whether a character may stand in a bare name. -/
def isWord (char : Char) : Bool :=
  if char.toNat < 0x80 then isAsciiWord char
  else CodeRange.covers wordRanges char.toNat

/-- Whether a character may stand in a dotted path of names. -/
def isPathChar (char : Char) : Bool :=
  isWord char || char == '.'

/-- What the basic library calls alphanumeric is ASCII. -/
theorem toNat_lt_of_isAlphanum {char : Char} (alphanumeric : char.isAlphanum = true) :
    char.toNat < 0x80 := by
  delta Char.isAlphanum Char.isAlpha Char.isUpper Char.isLower Char.isDigit at alphanumeric
  simp only [Bool.or_eq_true, Bool.and_eq_true, decide_eq_true_eq, ge_iff_le,
    UInt32.le_iff_toNat_le] at alphanumeric
  simp only [Char.toNat]
  rcases alphanumeric with (⟨-, h⟩ | ⟨-, h⟩) | ⟨-, h⟩ <;>
    exact Nat.lt_of_le_of_lt h (by decide)

/-- Every character that the basic library calls alphanumeric is a word
character. -/
theorem isWord_of_isAlphanum (char : Char) (alphanumeric : char.isAlphanum = true) :
    isWord char = true := by
  simp [isWord, toNat_lt_of_isAlphanum alphanumeric, isAsciiWord, alphanumeric]

end DiagramGraph.Text
