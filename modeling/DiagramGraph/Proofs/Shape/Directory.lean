import DiagramGraph.Proofs.Shape.Name
import DiagramGraph.Proofs.Storage.Folder
import DiagramGraph.Shape.Shipped

/-!
# What a folder of shapes lists

A shape is fetched by its key, and listed by the stem of its file, whatever that
stem is. So everything that can be fetched is listed. The converse needs files
that are named as the service names them: for stems over ASCII, the list has
only names that can be fetched, each of them once, exactly if every stem is the
key of a shape that can be read.
-/

namespace DiagramGraph.Shape

open DiagramGraph.Storage DiagramGraph.Text

namespace Directory

/-! ## Fetching -/

/-- Whether the name of a file and the path to it are short enough to open it. -/
def Reaches (directory : Directory) (file : String) : Prop :=
  isTooLongPath (directory.filePath file) = false ∧ isTooLong file = false

/-- The ending leaves room for 245 characters of a key. -/
theorem isTooLong_fileName {key : String} (named : key? key = some key) :
    isTooLong (fileName key) = decide (245 < key.toList.length) := by
  have ascii : IsAscii (key.toList ++ fileEnding.toList) := by
    intro char member
    rcases List.mem_append.1 member with front | ending
    · exact isAscii_of_key? named char front
    · have checked : fileEnding.toList.all (fun char => decide (char.toNat < 0x80)) = true := by
        decide
      exact of_decide_eq_true (List.all_eq_true.1 checked char ending)
  have ending : fileEnding.toList.length = 10 := by decide
  rw [isTooLong, byteLength, fileName, String.toList_append, Utf8.length_encode_of_ascii ascii,
    List.length_append, ending, nameLimit, decide_eq_decide]
  omega

/-- A file in reach that holds a text is read as the text. -/
theorem readFile_of_mem {directory : Directory} {items : List (String × Item)}
    (place : directory.place = .folder items) (distinct : directory.place.Distinct)
    {file text : String} (member : (file, .file (Utf8.encode text.toList)) ∈ items)
    (reaches : directory.Reaches file) : directory.readFile file = .ok text := by
  rw [place] at distinct
  rw [readFile, place, reaches.1, if_neg Bool.false_ne_true,
    Place.read_of_mem distinct member reaches.2]
  exact textOf_encode text

/-- In a folder a file out of reach is not looked for. -/
theorem get_of_not_reaches {directory : Directory} {items : List (String × Item)}
    (place : directory.place = .folder items) {name key : String} (named : key? name = some key)
    (far : ¬ directory.Reaches (fileName key)) :
    directory.get name =
      .error (.unreadable
        (directory.filePath (fileName key) ++ ": " ++ ReadFault.nameTooLong.message)) := by
  have read : directory.readFile (fileName key) = .error .nameTooLong := by
    rw [readFile, place]
    by_cases long : isTooLongPath (directory.filePath (fileName key)) = true
    · rw [if_pos long]
    · rw [if_neg long, Place.read, if_pos]
      rw [Bool.not_eq_true] at long
      rw [← Bool.not_eq_false]
      exact fun short => far ⟨long, short⟩
  simp [get, named, read]

/-- A shape is fetched by reading the file that is named after its key. -/
theorem get_eq_ok_iff {directory : Directory} {name text : String} :
    directory.get name = .ok text ↔
      ∃ key, key? name = some key ∧ directory.readFile (fileName key) = .ok text := by
  cases named : key? name with
  | none => simp [get, named]
  | some key =>
      cases read : directory.readFile (fileName key) with
      | ok found => simp [get, named, read]
      | error fault => cases fault <;> simp [get, named, read]

/-! ## Listing -/

/-- The stems of all shape files. -/
def stems (directory : Directory) : List String :=
  match directory.place.names with
  | .ok files => files.filterMap stem?
  | .error _ => []

theorem mem_stems {directory : Directory} {stem : String} :
    stem ∈ directory.stems ↔
      ∃ files, directory.place.names = .ok files ∧ fileName stem ∈ files := by
  rw [stems]
  cases directory.place.names with
  | error fault => simp
  | ok files => simp [List.mem_filterMap, stem?_eq_some_iff]

/-- Files with different names have different stems. -/
theorem nodup_stems {directory : Directory} (distinct : directory.place.Distinct) :
    directory.stems.Nodup := by
  rw [stems]
  cases listed : directory.place.names with
  | error fault => exact List.nodup_nil
  | ok files =>
      apply (distinct files listed).filterMap
      intro first second stem firstStem secondStem
      rw [stem?_eq_some_iff.1 firstStem, stem?_eq_some_iff.1 secondStem]

/-- What can be read is the file of a stem. -/
theorem mem_stems_of_readFile {directory : Directory} {key text : String}
    (found : directory.readFile (fileName key) = .ok text) : key ∈ directory.stems := by
  rw [readFile] at found
  split at found
  · contradiction
  · exact mem_stems.2 (Place.names_of_read found)

/-- The list shows every stem, in order. -/
theorem names_eq_ok {directory : Directory} {listed : List String}
    (names : directory.names = .ok listed) :
    listed = (directory.stems.map displayName).mergeSort fun first second =>
      decide (first ≤ second) := by
  rw [Directory.names] at names
  rw [stems]
  cases place : directory.place.names with
  | ok files =>
      rw [place] at names
      exact (Except.ok.inj names).symm
  | error fault =>
      rw [place] at names
      cases fault with
      | missing => simpa using (Except.ok.inj names).symm
      | _ => contradiction

theorem names_perm {directory : Directory} {listed : List String}
    (names : directory.names = .ok listed) : listed.Perm (directory.stems.map displayName) := by
  rw [names_eq_ok names]
  exact List.mergeSort_perm _ _

/-- A list of names is in ascending order. -/
theorem names_ascending {directory : Directory} {listed : List String}
    (names : directory.names = .ok listed) : listed.Pairwise (· ≤ ·) := by
  have transitive (first second third : String) (below : decide (first ≤ second) = true)
      (above : decide (second ≤ third) = true) : decide (first ≤ third) = true := by
    rw [decide_eq_true_eq] at below above ⊢
    exact String.le_trans below above
  have total (first second : String) :
      (decide (first ≤ second) || decide (second ≤ first)) = true := by
    rw [Bool.or_eq_true, decide_eq_true_eq, decide_eq_true_eq]
    exact String.le_total first second
  have sorted := List.pairwise_mergeSort transitive total (directory.stems.map displayName)
  rw [← names_eq_ok names] at sorted
  exact sorted.imp fun below => of_decide_eq_true below

/-- Where there is a folder, there is a list. -/
theorem exists_names {directory : Directory} {files : List String}
    (place : directory.place.names = .ok files) : ∃ listed, directory.names = .ok listed := by
  rw [Directory.names, place]
  exact ⟨_, rfl⟩

/-- A stem is shown in the list. -/
theorem names_of_mem_stems {directory : Directory} {stem : String}
    (member : stem ∈ directory.stems) :
    ∃ listed, directory.names = .ok listed ∧ displayName stem ∈ listed := by
  rcases mem_stems.1 member with ⟨files, place, -⟩
  rcases exists_names place with ⟨listed, names⟩
  exact ⟨listed, names, (names_perm names).mem_iff.2 (List.mem_map_of_mem member)⟩

/-! ## Listing and fetching -/

/-- Whether only names that can be fetched are listed, each of them once. -/
def ListsSoundly (directory : Directory) : Prop :=
  ∀ listed, directory.names = .ok listed →
    listed.Nodup ∧ ∀ name ∈ listed, ∃ text, directory.get name = .ok text

/-- Whether every shape file is named after the key of a shape and can be
read. -/
def Orderly (directory : Directory) : Prop :=
  ∀ stem ∈ directory.stems,
    key? stem = some stem ∧ ∃ text, directory.readFile (fileName stem) = .ok text

/-- What can be fetched is listed as it is shown. -/
theorem names_of_get {directory : Directory} {name text : String}
    (found : directory.get name = .ok text) :
    ∃ listed, directory.names = .ok listed ∧ displayName name ∈ listed := by
  rcases get_eq_ok_iff.1 found with ⟨key, named, read⟩
  rw [← displayName_key named]
  exact names_of_mem_stems (mem_stems_of_readFile read)

/-- Well-named files are listed soundly: a key is shown under a name with the
same key, and different keys are shown differently. -/
theorem listsSoundly_of_orderly {directory : Directory} (distinct : directory.place.Distinct)
    (orderly : directory.Orderly) : directory.ListsSoundly := by
  intro listed names
  have perm := names_perm names
  constructor
  · apply perm.nodup_iff.2
    apply (nodup_stems distinct).map_on
    intro first firstMember second secondMember same
    exact displayName_inj (orderly first firstMember).1 (orderly second secondMember).1 same
  · intro name member
    rcases List.mem_map.1 (perm.mem_iff.1 member) with ⟨stem, stemMember, rfl⟩
    rcases orderly stem stemMember with ⟨named, text, read⟩
    have shown := key?_displayName (isAscii_of_key? named)
    exact ⟨text, get_eq_ok_iff.2 ⟨stem, shown.trans named, read⟩⟩

/-- Over ASCII, a sound list leads back to well-named files. The listed name of a
stem is fetched from the file of a key that is shown alike; a file with another
stem than this key would be listed under the same name once more. -/
theorem orderly_of_listsSoundly {directory : Directory}
    (ascii : ∀ stem ∈ directory.stems, IsAscii stem.toList)
    (sound : directory.ListsSoundly) : directory.Orderly := by
  intro stem member
  rcases names_of_mem_stems member with ⟨listed, names, shown⟩
  rcases sound listed names with ⟨nodup, fetched⟩
  rcases fetched _ shown with ⟨text, found⟩
  rcases get_eq_ok_iff.1 found with ⟨key, named, read⟩
  rw [key?_displayName (ascii stem member)] at named
  have injective := List.inj_on_of_nodup_map ((names_perm names).nodup_iff.1 nodup)
  have same : key = stem :=
    injective (mem_stems_of_readFile read) member (displayName_key named)
  rw [same] at named read
  exact ⟨named, text, read⟩

/-- Everything that can be fetched is listed in its display form. Only what can
be fetched is listed, and nothing twice, if all shape files are well named; for
stems over ASCII there is no other case. -/
theorem names_and_get_agree {directory : Directory} (distinct : directory.place.Distinct) :
    (∀ name text, directory.get name = .ok text →
      ∃ listed, directory.names = .ok listed ∧ displayName name ∈ listed) ∧
    (directory.Orderly → directory.ListsSoundly) ∧
    ((∀ stem ∈ directory.stems, IsAscii stem.toList) →
      directory.ListsSoundly → directory.Orderly) := by
  refine ⟨?_, listsSoundly_of_orderly distinct, orderly_of_listsSoundly⟩
  intro name text found
  exact names_of_get found

/-- The folder of the service lists nothing but shapes. -/
theorem shipped_listsSoundly :
    shipped.place.Distinct ∧ shipped.Orderly ∧ shipped.ListsSoundly := by
  have distinct : shipped.place.Distinct := Place.distinct_folder.2 (by decide)
  have named : ∀ entry ∈ shippedFiles, ∀ stem ∈ stem? entry.1, key? stem = some stem := by
    decide +kernel
  have reaches : ∀ entry ∈ shippedFiles, shipped.Reaches entry.1 := by
    simp only [Reaches]
    decide +kernel
  have orderly : shipped.Orderly := by
    intro stem member
    rcases mem_stems.1 member with ⟨files, names, listed⟩
    rw [← Except.ok.inj names, List.map_map] at listed
    rcases List.mem_map.1 listed with ⟨entry, held, file⟩
    constructor
    · exact named entry held stem (stem?_eq_some_iff.2 file)
    · rw [← file]
      exact ⟨_, readFile_of_mem rfl distinct (List.mem_map.2 ⟨entry, held, rfl⟩)
        (reaches entry held)⟩
  exact ⟨distinct, orderly, (names_and_get_agree distinct).2.1 orderly⟩

/-- Without good names a list can be unsound in both ways: a folder that is named
like a shape file is listed, and two files whose names differ in case are listed
alike. -/
theorem exists_unsound_names :
    (¬ ∀ directory : Directory, directory.place.Distinct → ∀ listed, directory.names = .ok listed →
      ∀ name ∈ listed, ∃ text, directory.get name = .ok text) ∧
    ¬ ∀ directory : Directory, directory.place.Distinct → ∀ listed, directory.names = .ok listed →
      listed.Nodup := by
  constructor
  · intro fetched
    let directory : Directory := ⟨"shapes", .folder [("class_shape.ttl", .folder)]⟩
    have distinct : directory.place.Distinct := Place.distinct_folder.2 (by decide)
    have member : "class" ∈ directory.stems := by decide +kernel
    rcases names_of_mem_stems member with ⟨listed, names, shown⟩
    rcases fetched directory distinct listed names _ shown with ⟨text, found⟩
    have failed : directory.get (displayName "class") =
        .error (.unreadable "shapes/class_shape.ttl: Is a directory (os error 21)") := by
      decide +kernel
    rw [failed] at found
    cases found
  · intro nodup
    let directory : Directory :=
      ⟨"shapes", .folder [("class_shape.ttl", .file []), ("Class_shape.ttl", .file [])]⟩
    have distinct : directory.place.Distinct := Place.distinct_folder.2 (by decide)
    have member : "class" ∈ directory.stems := by decide +kernel
    rcases names_of_mem_stems member with ⟨listed, names, -⟩
    have twice : directory.stems.map displayName = ["Class", "Class"] := by decide +kernel
    have perm := names_perm names
    rw [twice] at perm
    exact absurd (perm.nodup_iff.1 (nodup directory distinct listed names)) (by decide)

end Directory

end DiagramGraph.Shape
