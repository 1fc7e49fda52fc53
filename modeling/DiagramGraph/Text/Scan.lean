import DiagramGraph.Text.Blank
import DiagramGraph.Text.Word

/-!
# Reading pieces off the front of a line

Each reader here looks at the start of a text. It returns what it recognised
together with the text that follows, or nothing when the text does not start
that way. A reader always takes as much as it can: a word ends where the word
characters end, a gap where the blanks end.
-/

namespace DiagramGraph.Text

/-! ## Words and gaps -/

/-- The text behind a fixed opening. -/
def after? : List Char → List Char → Option (List Char)
  | [], text => some text
  | _ :: _, [] => none
  | expected :: more, char :: rest => if char = expected then after? more rest else none

/-- The non-empty run of characters of one class at the start of a text. -/
def run? (belongs : Char → Bool) (text : List Char) : Option (List Char × List Char) :=
  match text.takeWhile belongs with
  | [] => none
  | first :: more => some (first :: more, text.dropWhile belongs)

/-- The word at the start of a text. -/
def word? (text : List Char) : Option (List Char × List Char) :=
  run? isWord text

/-- The text behind at least one blank. -/
def gap? : List Char → Option (List Char)
  | [] => none
  | char :: rest => if isBlank char then some (trimStart rest) else none

/-- A word that is separated from what follows by a gap. -/
def leadingWord? (text : List Char) : Option (List Char × List Char) := do
  let (word, rest) ← word? text
  let rest ← gap? rest
  return (word, rest)

/-! ## Delimited text -/

/-- The text up to the first occurrence of a mark, and the text behind it. -/
def upTo? (mark : Char) : List Char → Option (List Char × List Char)
  | [] => none
  | char :: rest =>
      if char = mark then some ([], rest)
      else (upTo? mark rest).map fun (inner, remaining) => (char :: inner, remaining)

/-- A text in double quotes, which may be empty. -/
def quoted? : List Char → Option (List Char × List Char)
  | '"' :: rest => upTo? '"' rest
  | _ => none

/-! ## Names -/

/-- A name: either a non-empty text in double quotes or a word. -/
def name? (text : List Char) : Option (List Char × List Char) :=
  match quoted? text with
  | some (first :: more, rest) => some (first :: more, rest)
  | _ => word? text

/-- The word introduced by ` as ` at the start of a text. -/
def aliasName? (text : List Char) : Option (List Char × List Char) := do
  let rest ← gap? text
  let (word, rest) ← leadingWord? rest
  if word = ['a', 's'] then word? rest else none

/-- A name with its alias, if one follows. -/
def namePart? (text : List Char) :
    Option (List Char × Option (List Char) × List Char) := do
  let (name, rest) ← name? text
  match aliasName? rest with
  | some (aliasName, rest) => return (name, some aliasName, rest)
  | none => return (name, none, rest)

/-- The text after a colon, with blanks allowed around the colon. Nothing but
blanks after the colon is no label. -/
def label? (text : List Char) : Option (List Char) :=
  match trimStart text with
  | ':' :: rest => nonBlank? rest
  | _ => none

/-! ## Anywhere in a line -/

/-- What a reader makes of a text at the first place where a word begins and
the reader succeeds. `inWord` tells whether the character before the text is a
word character. -/
def firstAtWord {α : Type} (reader : List Char → Option α) (inWord : Bool) :
    List Char → Option α
  | [] => none
  | char :: rest =>
      match if inWord then none else reader (char :: rest) with
      | some found => some found
      | none => firstAtWord reader (isWord char) rest

end DiagramGraph.Text
