import DiagramGraph.Diagram.Kind
import DiagramGraph.Text.Scan

/-!
# The kind of diagram that a source holds

A source opens a diagram with a directive: `@start` followed directly by a
word. The first directive whose word is not `uml` decides the kind. If every
directive is a bare `@startuml`, the kind is guessed from the content: from the
declarations that occur in it, else from arrows. A source without directive is
no diagram at all.
-/

namespace DiagramGraph.Detection

open DiagramGraph.Text

/-! ## Directives -/

/-- The opening of a directive, without its word. -/
def directiveMark : List Char :=
  ['@', 's', 't', 'a', 'r', 't']

/-- The word of a directive that stands at the start of a text. -/
def directiveAt? (text : List Char) : Option (List Char) := do
  let rest ← after? directiveMark text
  let (word, _) ← word? rest
  return word

/-- The words of all directives in a text, in order. -/
def directives : List Char → List (List Char)
  | [] => []
  | char :: rest => (directiveAt? (char :: rest)).toList ++ directives rest

/-- The word of the directive that leaves the kind open. -/
def bareWord : List Char :=
  ['u', 'm', 'l']

/-! ## Content -/

/-- Whether a keyword followed by blanks and a word character stands at the
start of a text. -/
def announcesAt (keyword text : List Char) : Bool :=
  match (after? keyword text).bind gap? with
  | some (char :: _) => isWord char
  | _ => false

/-- Whether a keyword followed by blanks and a word character occurs in a text,
not inside a longer word. `inWord` tells whether the character before the text
is a word character. -/
def announces (keyword : List Char) (inWord : Bool) : List Char → Bool
  | [] => false
  | char :: rest =>
      (!inWord && announcesAt keyword (char :: rest)) || announces keyword (isWord char) rest

/-- Whether a text contains `--` or `->`. -/
def hasArrow : List Char → Bool
  | '-' :: char :: rest => char == '-' || char == '>' || hasArrow (char :: rest)
  | _ :: rest => hasArrow rest
  | [] => false

/-- The keywords that give a kind away, in the order in which they count. -/
def tellingKeywords : List (List Char × DiagramKind) :=
  [ (['c', 'l', 'a', 's', 's'], .classes),
    (['a', 'c', 't', 'o', 'r'], .useCase),
    (['u', 's', 'e', 'c', 'a', 's', 'e'], .useCase),
    (['e', 'n', 't', 'i', 't', 'y'], .entityRelationship) ]

/-- The kind that the content of a source suggests. -/
def guess (source : List Char) : DiagramKind :=
  match tellingKeywords.find? fun (keyword, _) => announces keyword false source with
  | some (_, kind) => kind
  | none => if hasArrow source then .sequence else .generic

/-! ## Decision -/

/-- The kind of diagram in a source, if it has a directive. -/
def kind? (source : List Char) : Option DiagramKind :=
  match (directives source).map asciiLower with
  | [] => none
  | words =>
      match words.find? fun word => word != bareWord with
      | some word => some (DiagramKind.ofDirective (String.ofList word))
      | none => some (guess source)

end DiagramGraph.Detection
