import DiagramGraph.Shape.Name
import DiagramGraph.Storage.Folder

/-!
# Shapes in a folder

Each shape is a file that is named after its key. The folder is looked at anew
for each request. A shape whose file is not there is not found; a file that is
there and cannot be read is an error of its own.
-/

namespace DiagramGraph.Shape

open DiagramGraph.Storage

/-- A place for shape files, with the path under which it is reported. -/
structure Directory where
  path : String
  place : Place
  deriving DecidableEq, Repr

namespace Directory

/-- The path of the file with a given name. -/
def filePath (directory : Directory) (file : String) : String :=
  if directory.path = "" || directory.path.toList.getLast? = some '/' then directory.path ++ file
  else directory.path ++ "/" ++ file

/-- The text of the file with a given name. -/
def readFile (directory : Directory) (file : String) : Except ReadFault String :=
  if isTooLongPath (directory.filePath file) then .error .nameTooLong
  else directory.place.read file

/-- The shape with a given name. -/
def get (directory : Directory) (name : String) : Except Missing String :=
  match key? name with
  | none => .error (.notFound name)
  | some key =>
      match directory.readFile (fileName key) with
      | .ok text => .ok text
      | .error .missing => .error (.notFound name)
      | .error fault =>
          .error (.unreadable (directory.filePath (fileName key) ++ ": " ++ fault.message))

/-- The names of all shapes as they are shown, in order. -/
def names (directory : Directory) : Except Missing (List String) :=
  match directory.place.names with
  | .ok files =>
      .ok (((files.filterMap stem?).map displayName).mergeSort fun first second =>
        decide (first ≤ second))
  | .error .missing => .ok []
  | .error fault => .error (.unreadable (directory.path ++ ": " ++ fault.message))

end Directory

end DiagramGraph.Shape
