import DiagramGraph.Text.Utf8

/-!
# Folders

A folder holds files and further folders by name. A place where a folder is
expected may also be empty, hold a file or lie behind a name that is too long.
Reading a file gives its text or the reason why there is none.
-/

namespace DiagramGraph.Storage

open DiagramGraph.Text

/-- Why a text cannot be read. -/
inductive ReadFault where
  | missing
  | notFolder
  | isFolder
  | nameTooLong
  | notText
  deriving DecidableEq, Repr

/-- How the system reports the reason. -/
def ReadFault.message : ReadFault → String
  | .missing => "No such file or directory (os error 2)"
  | .notFolder => "Not a directory (os error 20)"
  | .isFolder => "Is a directory (os error 21)"
  | .nameTooLong => "File name too long (os error 36)"
  | .notText => "stream did not contain valid UTF-8"

/-- The text that bytes encode. -/
def textOf (bytes : List UInt8) : Except ReadFault String :=
  match Utf8.decode bytes with
  | .ok text => .ok (String.ofList text)
  | .error _ => .error .notText

/-! ## Limits -/

/-- The greatest number of bytes in a name. -/
def nameLimit : Nat :=
  255

/-- The greatest number of bytes in a path. -/
def pathLimit : Nat :=
  4095

/-- The number of bytes in a name or path. -/
def byteLength (text : String) : Nat :=
  (Utf8.encode text.toList).length

/-- Whether a name has more bytes than a name may have. -/
def isTooLong (name : String) : Bool :=
  nameLimit < byteLength name

/-- Whether a path has more bytes than a path may have. -/
def isTooLongPath (path : String) : Bool :=
  pathLimit < byteLength path

/-! ## What a folder holds -/

/-- What a name in a folder stands for. -/
inductive Item where
  | file (bytes : List UInt8)
  | folder
  deriving DecidableEq, Repr

/-- The text of an item. -/
def Item.text : Item → Except ReadFault String
  | .file bytes => textOf bytes
  | .folder => .error .isFolder

/-- What is found where a folder is expected. -/
inductive Place where
  | missing
  | file
  | outOfReach
  | folder (items : List (String × Item))
  deriving DecidableEq, Repr

namespace Place

/-- The text of the file with a given name. -/
def read (place : Place) (name : String) : Except ReadFault String :=
  match place with
  | .missing => .error .missing
  | .file => .error .notFolder
  | .outOfReach => .error .nameTooLong
  | .folder items =>
      if isTooLong name then .error .nameTooLong
      else
        match items.lookup name with
        | none => .error .missing
        | some item => item.text

/-- The names in the folder. -/
def names (place : Place) : Except ReadFault (List String) :=
  match place with
  | .missing => .error .missing
  | .file => .error .notFolder
  | .outOfReach => .error .nameTooLong
  | .folder items => .ok (items.map Prod.fst)

end Place

end DiagramGraph.Storage
