import DiagramGraph.Proofs.Shape.Name
import DiagramGraph.Proofs.Storage.Tree
import DiagramGraph.Service.Router
import DiagramGraph.Shape.Directory
import Mathlib.Data.List.Basic

/-!
# A request for a shape consults one file

Whoever asks for a shape chooses the name of a file, so it matters which files can
be reached in this way. A text that is no name reaches none. A name reaches the
file of its key directly in the folder of shapes, and nothing else in the file
system has an influence on the answer.
-/

namespace DiagramGraph.Shape

open DiagramGraph.Storage DiagramGraph.Text

/-! ## File names -/

/-- A name leads to a file only if it is a run of ASCII word characters. -/
theorem key?_eq_none_iff {name : String} :
    key? name = none ↔ name = "" ∨ ∃ char ∈ name.toList, isAsciiWord char = false := by
  by_cases empty : name.toList = []
  · simp [key?, String.toList_eq_nil_iff.1 empty]
  · have nonempty : name ≠ "" := fun same => empty (String.toList_eq_nil_iff.2 same)
    simp [key?, empty, nonempty]

/-- The file of a key is named by a run of ASCII word characters and the ending of
shape files, so its name is no path. -/
theorem isPlainName_fileName {name key : String} (named : key? name = some key) :
    IsPlainName (fileName key) := by
  have characters := (key?_eq_some_iff.1 (key?_key named)).2.1
  have ending : fileEnding.toList.length = 10 := by decide
  have length : 10 ≤ (fileName key).toList.length := by
    rw [fileName, String.toList_append, List.length_append, ending]
    exact Nat.le_add_left _ _
  have apart (short : String) (less : short.toList.length < 10) : fileName key ≠ short := by
    rintro same
    rw [same] at length
    exact absurd less (Nat.not_lt.2 length)
  refine ⟨apart "" (by decide), ?_, apart "." (by decide), apart ".." (by decide)⟩
  intro slash
  rw [fileName, String.toList_append, List.mem_append] at slash
  rcases slash with front | back
  · exact absurd (List.all_eq_true.1 characters '/' front) (by decide)
  · exact absurd back (by decide)

namespace Directory

/-! ## Folders in a file system -/

/-- The folder of shapes at a path, as it is found in a file system. -/
def inTree (tree : Tree) (start : Position) (path : String) : Directory :=
  { path, place := tree.placeAt start (folderPath path) }

/-- The file that a request for a shape consults if the shapes are kept at a path;
nothing for a text that is no name. -/
def consulted? (path name : String) : Option String :=
  (key? name).map fun key => childPath path (fileName key)

/-- What is said about a shape if reading its file comes to this. -/
def ofOutcome (name file : String) : Except ReadFault String → Except Missing String
  | .ok text => .ok text
  | .error .missing => .error (.notFound name)
  | .error fault => .error (.unreadable (file ++ ": " ++ fault.message))

theorem readFile_inTree {file : String} (plain : IsPlainName file) (tree : Tree) (start : Position)
    (path : String) :
    (inTree tree start path).readFile file = tree.read start (childPath path file) := by
  rw [read_childPath plain]
  rfl

/-- A request is answered by what reading the consulted file comes to. -/
theorem get_inTree (tree : Tree) (start : Position) (path name : String) :
    (inTree tree start path).get name =
      match consulted? path name with
      | none => .error (.notFound name)
      | some file => ofOutcome name file (tree.read start file) := by
  cases named : key? name with
  | none => simp [get, consulted?, named]
  | some key =>
      rw [get, consulted?, named, Option.map_some]
      dsimp only
      rw [readFile_inTree (isPlainName_fileName named)]
      cases tree.read start (childPath path (fileName key)) with
      | ok text => rfl
      | error fault => cases fault <;> rfl

/-- What is no name reaches no file, and its shape is missing from every folder. -/
theorem get_of_consulted?_eq_none {path name : String} (none : consulted? path name = none)
    (directory : Directory) : directory.get name = .error (.notFound name) := by
  rw [consulted?, Option.map_eq_none_iff] at none
  rw [get, none]

theorem consulted?_eq_none_iff {path name : String} :
    consulted? path name = none ↔ name = "" ∨ ∃ char ∈ name.toList, isAsciiWord char = false := by
  rw [consulted?, Option.map_eq_none_iff, key?_eq_none_iff]

/-- The consulted file is that of the name in lower case. -/
theorem consulted?_eq_some {path name file : String}
    (consulted : consulted? path name = some file) :
    file = childPath path (fileName (String.ofList (asciiLower name.toList))) ∧
      IsPlainName (fileName (String.ofList (asciiLower name.toList))) := by
  rw [consulted?, Option.map_eq_some_iff] at consulted
  obtain ⟨key, named, rfl⟩ := consulted
  rw [(key?_eq_some_iff.1 named).2.2]
  exact ⟨rfl, isPlainName_fileName named⟩

/-- Names share a file if and only if they agree up to case. -/
theorem consulted?_inj {path first second firstFile secondFile : String}
    (one : consulted? path first = some firstFile)
    (other : consulted? path second = some secondFile) :
    firstFile = secondFile ↔ asciiLower first.toList = asciiLower second.toList := by
  obtain ⟨rfl, -⟩ := consulted?_eq_some one
  obtain ⟨rfl, -⟩ := consulted?_eq_some other
  rw [childPath_inj, fileName_inj, String.ofList_inj]

end Directory

/-! ## Requests -/

open DiagramGraph.Service

/-- A request that can be sent asks for the shape with a name. -/
structure AsksShape (request : Request) (name : String) : Prop where
  method : request.method = "GET"
  query : ∃ target, Target.ofText? request.target.toList = some target ∧
    target.path = "/shacl".toList ∧ queriedNames (target.query.getD []) = [name]
  sendable : ∀ header ∈ request.headers, header.isWellFormed = true

theorem AsksShape.answer?_eq {environment : Environment} {request : Request} {name : String}
    (asks : AsksShape request name) :
    answer? environment request = some (namedShapeResponse environment name) := by
  obtain ⟨target, read, path, named⟩ := asks.query
  have routed : Route.ofPath? target.path = some .shape := by
    rw [path]
    rfl
  have token : isToken request.method = true := by
    rw [asks.method]
    decide
  have sendable : request.headers.all Header.isWellFormed = true :=
    List.all_eq_true.2 asks.sendable
  have answered : Route.shape.answer environment request target =
      shapeResponse environment (target.query.getD []) := if_pos asks.method
  rw [answer?, read]
  dsimp only
  rw [token, sendable, Bool.and_self, if_pos rfl, answerTarget, routed]
  dsimp only
  rw [answered, shapeResponse, named]

/-- The answer depends on the environment by the shape with the name only. -/
theorem AsksShape.answer?_congr {first second : Environment} {request : Request} {name : String}
    (asks : AsksShape request name) (same : first.shape name = second.shape name) :
    answer? first request = answer? second request := by
  rw [asks.answer?_eq, asks.answer?_eq, namedShapeResponse, same, ← namedShapeResponse]

theorem AsksShape.answer?_of_notFound {environment : Environment} {request : Request}
    {name : String} (asks : AsksShape request name)
    (missing : environment.shape name = .error (.notFound name)) :
    answer? environment request = some (Rejection.shapeNotFound name).response := by
  rw [asks.answer?_eq, namedShapeResponse, missing]
  rfl

/-- The service on a file system that has the folder of shapes at a path. -/
def serviceIn (tree : Tree) (start : Position) (path name now : String) : Environment :=
  { shape := (Directory.inTree tree start path).get, name, now }

/-! ## The main statement -/

/-- A file is an item of the folder at a path: its name is no path itself, and the way
to the file ends directly below the folder if it leads anywhere. -/
structure IsChild (path item file : String) : Prop where
  joined : file = childPath path item
  plain : IsPlainName item
  below : ∀ (tree : Tree) (start position : Position), tree.resolve start file = .ok position →
    ∃ folder, tree.resolve start (folderPath path) = .ok folder ∧ position = item :: folder

/-- Two file systems in which the consulted file reads alike give the same shape and
the same answer to requests for it. No file is consulted exactly if the text is no
name; then there is no such shape, whatever the files. The consulted file stands
directly in the folder of shapes, and names share it if and only if they agree up to
case. -/
theorem shape_confined (path name : String) :
    (∀ (first second : Tree) (start other : Position),
      (∀ file ∈ Directory.consulted? path name, first.read start file = second.read other file) →
        (Directory.inTree first start path).get name =
            (Directory.inTree second other path).get name ∧
          ∀ request service now, AsksShape request name →
            answer? (serviceIn first start path service now) request =
              answer? (serviceIn second other path service now) request) ∧
      (Directory.consulted? path name = none ↔
        name = "" ∨ ∃ char ∈ name.toList, isAsciiWord char = false) ∧
      (Directory.consulted? path name = none → ∀ (tree : Tree) (start : Position),
        (Directory.inTree tree start path).get name = .error (.notFound name) ∧
          ∀ request service now, AsksShape request name →
            answer? (serviceIn tree start path service now) request =
              some (Rejection.shapeNotFound name).response) ∧
      (∀ file ∈ Directory.consulted? path name,
        IsChild path (fileName (String.ofList (asciiLower name.toList))) file) ∧
      ∀ other, ∀ file ∈ Directory.consulted? path name,
        ∀ otherFile ∈ Directory.consulted? path other,
          file = otherFile ↔ asciiLower name.toList = asciiLower other.toList := by
  refine ⟨?_, Directory.consulted?_eq_none_iff, ?_, ?_, ?_⟩
  · intro first second start other alike
    have same : (Directory.inTree first start path).get name =
        (Directory.inTree second other path).get name := by
      rw [Directory.get_inTree, Directory.get_inTree]
      cases consulted : Directory.consulted? path name with
      | none => rfl
      | some file => exact congrArg (Directory.ofOutcome name file) (alike file consulted)
    exact ⟨same, fun request service now asks => asks.answer?_congr same⟩
  · intro nothing tree start
    have missing := Directory.get_of_consulted?_eq_none nothing (Directory.inTree tree start path)
    exact ⟨missing, fun request service now asks => asks.answer?_of_notFound missing⟩
  · intro file consulted
    obtain ⟨rfl, plain⟩ := Directory.consulted?_eq_some consulted
    exact ⟨rfl, plain, fun tree start position => exists_folder_of_resolve plain⟩
  · intro other file consulted otherFile otherConsulted
    exact Directory.consulted?_inj consulted otherConsulted

/-- A request that spells a name with a percent sequence and a capital. -/
def capitalRequest : Request :=
  { method := "GET", target := "/shacl?name=%43lass" }

theorem asksShape_capitalRequest : AsksShape capitalRequest "Class" where
  method := rfl
  query :=
    ⟨⟨"/shacl".toList, some "name=%43lass".toList⟩, by decide +kernel, rfl, by decide +kernel⟩
  sendable := nofun

/-- A file system with one shape, and with some text in a file next to it. -/
def shapeTree (note : String) : Tree :=
  Tree.ofFiles
    [ ("shapes/class_shape.ttl", Utf8.encode "ex:ClassShape".toList),
      ("shapes/sequence_shape.ttl", Utf8.encode note.toList) ] []

theorem shape_confined_capitalRequest :
    shapeTree "one" ≠ shapeTree "another" ∧
      Directory.consulted? "shapes" "Class" = some "shapes/class_shape.ttl" ∧
      answer? (serviceIn (shapeTree "one") Tree.workFolder "shapes" "converter" "now")
          capitalRequest =
        answer? (serviceIn (shapeTree "another") Tree.workFolder "shapes" "converter" "now")
          capitalRequest ∧
      Directory.consulted? "shapes" "../Class" = none ∧
      (Directory.inTree (shapeTree "one") Tree.workFolder "shapes").get "../Class" =
        .error (.notFound "../Class") := by
  have consulted : Directory.consulted? "shapes" "Class" = some "shapes/class_shape.ttl" := by
    decide +kernel
  have alike : ∀ file ∈ Directory.consulted? "shapes" "Class",
      (shapeTree "one").read Tree.workFolder file =
        (shapeTree "another").read Tree.workFolder file := by
    simp only [consulted, Option.mem_some_iff, forall_eq']
    decide +kernel
  have confined := (shape_confined "shapes" "Class").1 _ _ _ _ alike
  have nothing : Directory.consulted? "shapes" "../Class" = none :=
    (shape_confined "shapes" "../Class").2.1.2 (.inr ⟨'.', by decide, by decide⟩)
  exact ⟨by decide +kernel, consulted, confined.2 _ _ _ asksShape_capitalRequest, nothing,
    ((shape_confined "shapes" "../Class").2.2.1 nothing _ _).1⟩

end DiagramGraph.Shape
