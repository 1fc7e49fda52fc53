import DiagramGraph.Text.Casing
import DiagramGraph.Text.Word

/-!
# Names of shapes

A shape is a text that constrains the graphs of one kind of diagram, and is
known by a name over ASCII letters, digits and the underscore. Names that
differ only in case are the same; the key of a name is its lower-case form. No
other text is a name, so a key never leads out of the folder in which shapes
are kept.
-/

namespace DiagramGraph.Shape

open DiagramGraph.Text

/-- The key of a name; nothing if the text is no name. -/
def key? (name : String) : Option String :=
  if name.toList != [] && name.toList.all isAsciiWord then
    some (String.ofList (asciiLower name.toList))
  else none

/-- How a key is shown in a list. -/
def displayName (key : String) : String :=
  String.ofList (capitalize key.toList)

/-- What the files of shapes end in. -/
def fileEnding : String :=
  "_shape.ttl"

/-- The name of the file that holds the shape with a key. -/
def fileName (key : String) : String :=
  key ++ fileEnding

/-- The part of a file name in front of the ending of shape files. -/
def stem? (file : String) : Option String :=
  let chars := file.toList
  let ending := fileEnding.toList
  if ending.isSuffixOf chars then some (String.ofList (chars.take (chars.length - ending.length)))
  else none

/-- Why there is no shape. -/
inductive Missing where
  | notFound (name : String)
  | unreadable (detail : String)
  deriving DecidableEq, Repr

/-- How the reason is reported. -/
def Missing.message : Missing → String
  | .notFound name => "no shape for diagram type: " ++ name
  | .unreadable detail => "shape store error: " ++ detail

end DiagramGraph.Shape
