import DiagramGraph.Storage.Folder
import DiagramGraph.Text.Split

/-!
# File trees

A tree holds files and folders by position. A path leads from one position to
another, one step at a time: each step is taken from a folder, to one of its
items, to itself or to the folder above. What a path leads to can be read, and
files and folders can be put there.
-/

namespace DiagramGraph.Storage

open DiagramGraph.Text

/-- The names on the way from the root to an item, the latest first. -/
abbrev Position := List String

/-- Files and folders by position. The root is a folder and is not listed. -/
abbrev Tree := List (Position × Item)

/-! ## Paths -/

/-- Whether a path starts at the root. -/
def isAbsolute (path : String) : Bool :=
  path.toList.head? == some '/'

/-- The steps of a path. Slashes that follow each other count as one, and a
final slash asks for a folder. -/
def steps (path : String) : List String :=
  let all := pieces '/' path.toList
  let named := all.filter (· != [])
  (if all.getLast? = some [] then named ++ [['.']] else named).map String.ofList

namespace Tree

/-- The item at a position. -/
def item? (tree : Tree) (position : Position) : Option Item :=
  if position = [] then some .folder else tree.lookup position

/-- Where one step leads. -/
def step (tree : Tree) (position : Position) (name : String) : Except ReadFault Position :=
  match tree.item? position with
  | none => .error .missing
  | some (.file _) => .error .notFolder
  | some .folder =>
      if name = "." then .ok position
      else if name = ".." then .ok position.tail
      else if isTooLong name then .error .nameTooLong
      else
        match tree.item? (name :: position) with
        | none => .error .missing
        | some _ => .ok (name :: position)

/-- Where several steps lead. -/
def walk (tree : Tree) (position : Position) : List String → Except ReadFault Position
  | [] => .ok position
  | name :: rest => (tree.step position name).bind fun next => tree.walk next rest

/-- Where a path begins. -/
def origin (start : Position) (path : String) : Position :=
  if isAbsolute path then [] else start

/-- Where a path leads, from a certain start. -/
def resolve (tree : Tree) (start : Position) (path : String) : Except ReadFault Position :=
  if path = "" then .error .missing
  else if isTooLongPath path then .error .nameTooLong
  else tree.walk (origin start path) (steps path)

/-! ## Reading -/

/-- The text of the file that a path leads to. -/
def read (tree : Tree) (start : Position) (path : String) : Except ReadFault String :=
  (tree.resolve start path).bind fun position =>
    match tree.item? position with
    | none => .error .missing
    | some item => item.text

/-- The items of the folder at a position. -/
def itemsAt (tree : Tree) (position : Position) : List (String × Item) :=
  tree.filterMap fun (other, item) =>
    match other with
    | [] => none
    | name :: parent => if parent = position then some (name, item) else none

/-- What a path leads to, where a folder is expected. -/
def placeAt (tree : Tree) (start : Position) (path : String) : Place :=
  match tree.resolve start path with
  | .error .notFolder => .file
  | .error .nameTooLong => .outOfReach
  | .error _ => .missing
  | .ok position =>
      match tree.item? position with
      | none => .missing
      | some (.file _) => .file
      | some .folder => .folder (tree.itemsAt position)

/-! ## Changes -/

/-- The tree with one item set. -/
def set (tree : Tree) (position : Position) (item : Item) : Tree :=
  match tree with
  | [] => [(position, item)]
  | (other, old) :: rest =>
      if other = position then (position, item) :: rest else (other, old) :: set rest position item

/-- Follow steps and make every folder that is not there. -/
def makeSteps (tree : Tree) (position : Position) : List String → Tree
  | [] => tree
  | name :: rest =>
      match tree.step position name with
      | .ok next => makeSteps tree next rest
      | .error .missing => makeSteps (tree.set (name :: position) .folder) (name :: position) rest
      | .error _ => tree

/-- The tree with a folder at a path, and with the folders on the way to it. -/
def makeFolder (tree : Tree) (start : Position) (path : String) : Tree :=
  if path = "" || isTooLongPath path then tree
  else tree.makeSteps (origin start path) (steps path)

/-- The position of an item that a path names, whether or not it is there. The
folder in which it stands has to be there. -/
def target? (tree : Tree) (start : Position) (path : String) : Option Position :=
  let way := steps path
  match way.getLast?, tree.walk (origin start path) way.dropLast with
  | some name, .ok folder =>
      if name = "." || name = ".." || isTooLong name || isTooLongPath path then none
      else if tree.item? folder = some .folder then some (name :: folder)
      else none
  | _, _ => none

/-- The tree after a file was written at a path. A folder is not
overwritten. -/
def writeFile (tree : Tree) (start : Position) (path : String) (bytes : List UInt8) : Tree :=
  match tree.target? start path with
  | none => tree
  | some position =>
      if tree.item? position = some .folder then tree else tree.set position (.file bytes)

/-- The tree without the item at a path and all that it holds. -/
def remove (tree : Tree) (start : Position) (path : String) : Tree :=
  match tree.target? start path with
  | none => tree
  | some position => tree.filter fun (other, _) => !position.isSuffixOf other

/-! ## The tree that a program works in -/

/-- The folder in which the program is started. Its name is no step of any
path, so paths come back to it only by not leaving it. -/
def workFolder : Position :=
  ["", "tmp"]

/-- What every system has: a few folders, and a file that is always empty. The
standard input is a file as well, but only for a program that has one. -/
def system : Tree :=
  [ (["dev"], .folder),
    (["null", "dev"], .file []),
    (["etc"], .folder),
    (["home"], .folder),
    (["proc"], .folder),
    (["tmp"], .folder),
    (["usr"], .folder),
    (["var"], .folder),
    (workFolder, .folder) ]

/-- The tree of a program with certain files in its work folder and a certain
standard input. -/
def ofFiles (files : List (String × List UInt8)) (input : List UInt8) : Tree :=
  files.foldl
    (fun tree (path, bytes) =>
      (tree.makeSteps workFolder (steps path).dropLast).writeFile workFolder path bytes)
    (system.set ["stdin", "dev"] (.file input))

end Tree

end DiagramGraph.Storage
