import DiagramGraph.Text.UnprintableRanges

/-!
# Quoted text in messages

A message that repeats a text puts it in double quotes, so that its ends and
its unusual characters can be seen. The quote, the backslash and the usual
controls are written with a backslash, an apostrophe is left alone, and a
character that has no visible form of its own is written by its number.
-/

namespace DiagramGraph.Text

/-- Whether a character is shown as itself. -/
def isPrintable (char : Char) : Bool :=
  if char.toNat < 0x80 then 0x20 ≤ char.toNat && char.toNat < 0x7f
  else !CodeRange.covers unprintableRanges char.toNat

/-- A character by its number in lower-case hexadecimal digits. -/
def numberedChar (char : Char) : List Char :=
  ['\\', 'u', '\x7b'] ++ Nat.toDigits 16 char.toNat ++ ['\x7d']

/-- One character as it stands between the quotes. -/
def quotedChar (char : Char) : List Char :=
  if char = '"' then ['\\', '"']
  else if char = '\\' then ['\\', '\\']
  else if char = '\n' then ['\\', 'n']
  else if char = '\r' then ['\\', 'r']
  else if char = '\t' then ['\\', 't']
  else if char.toNat = 0 then ['\\', '0']
  else if isPrintable char then [char]
  else numberedChar char

/-- A text in double quotes. -/
def quoted (text : List Char) : List Char :=
  '"' :: text.flatMap quotedChar ++ ['"']

end DiagramGraph.Text
