import DiagramGraph.Proofs.Text.Lines
import DiagramGraph.Storage.Tree

/-!
# Reading one level below a path

A name behind a path leads to the item of that name in the folder to which the
path leads. So what is found at the path tells all that can be read with one
further name, and reading fails there for the reason for which the path does.
-/

namespace DiagramGraph.Storage

open DiagramGraph.Text

/-! ## Steps -/

/-- The names on a path. -/
def namesOn (path : String) : List String :=
  ((pieces '/' path.toList).filter (· != [])).map String.ofList

/-- A name that leads from a folder to one of its items: it is no path of several
names, and leads neither nowhere nor upwards. -/
structure IsPlainName (name : String) : Prop where
  nonempty : name ≠ ""
  single : '/' ∉ name.toList
  notHere : name ≠ "."
  notAbove : name ≠ ".."

/-- The path of an item in the folder at a path. -/
def childPath (path name : String) : String :=
  if path = "" || path.toList.getLast? = some '/' then path ++ name else path ++ "/" ++ name

/-- The steps of a path are its names, and a step in place if the path ends in a
slash. -/
theorem steps_eq (path : String) :
    steps path =
      namesOn path ++ if (pieces '/' path.toList).getLast? = some [] then ["."] else [] := by
  rw [steps, namesOn]
  split <;> simp

theorem steps_behind_slash {path name : String} {front : List Char} (plain : IsPlainName name)
    (shape : path.toList = front ++ '/' :: name.toList) :
    steps path = ((pieces '/' front).filter (· != [])).map String.ofList ++ [name] := by
  have nonempty : name.toList ≠ [] := fun empty => plain.nonempty (String.toList_eq_nil_iff.1 empty)
  rw [steps_eq, namesOn, shape, pieces_append_separator, pieces_of_notMem plain.single]
  simp [nonempty]

/-- The way to an item of a folder is the way to the folder and one step more. -/
theorem steps_childPath {name : String} (plain : IsPlainName name) (path : String) :
    steps (childPath path name) = namesOn path ++ [name] := by
  have nonempty : name.toList ≠ [] := fun empty => plain.nonempty (String.toList_eq_nil_iff.1 empty)
  rw [childPath]
  by_cases empty : path = ""
  · simp [empty, steps_eq, namesOn, pieces_of_notMem plain.single, nonempty, pieces]
  by_cases slash : path.toList.getLast? = some '/'
  · obtain ⟨front, shape⟩ := List.getLast?_eq_some_iff.1 slash
    have behind : (path ++ name).toList = front ++ '/' :: name.toList := by simp [shape]
    rw [if_pos (by simp [slash]), steps_behind_slash plain behind, namesOn, shape,
      pieces_append_separator]
    simp [pieces]
  · have behind : (path ++ "/" ++ name).toList = path.toList ++ '/' :: name.toList := by simp
    rw [if_neg (by simp [empty, slash]), steps_behind_slash plain behind, namesOn]

theorem childPath_ne_empty {name : String} (plain : IsPlainName name) (path : String) :
    childPath path name ≠ "" := by
  rw [childPath]
  split
  · exact fun empty => plain.nonempty (String.append_eq_empty_iff.1 empty).2
  · exact fun empty => plain.nonempty (String.append_eq_empty_iff.1 empty).2

/-- Different items have different paths. -/
theorem childPath_inj {path first second : String} :
    childPath path first = childPath path second ↔ first = second := by
  rw [childPath, childPath]
  split <;> simp [← String.toList_inj]

/-- The way to an item of a folder begins where the way to the folder does. -/
theorem origin_childPath {name : String} (plain : IsPlainName name) (start : Position)
    (path : String) : Tree.origin start (childPath path name) = Tree.origin start path := by
  have same : isAbsolute (childPath path name) = isAbsolute path := by
    rw [isAbsolute, isAbsolute, childPath]
    cases shape : path.toList with
    | nil =>
        have relative : name.toList.head? ≠ some '/' :=
          fun starts => plain.single (List.mem_of_mem_head? starts)
        have empty := String.toList_eq_nil_iff.1 shape
        simp [empty, relative]
    | cons first rest => split <;> simp [shape]
  rw [Tree.origin, Tree.origin, same]

/-! ## What is found where steps lead -/

namespace Tree

variable {tree : Tree} {name : String}

/-- The place to which steps have led. -/
def placeOf (tree : Tree) : Except ReadFault Position → Place
  | .error .notFolder => .file
  | .error .nameTooLong => .outOfReach
  | .error _ => .missing
  | .ok position =>
      match tree.item? position with
      | none => .missing
      | some (.file _) => .file
      | some .folder => .folder (tree.itemsAt position)

/-- The text of the file to which steps have led. -/
def textOf (tree : Tree) (outcome : Except ReadFault Position) : Except ReadFault String :=
  outcome.bind fun position =>
    match tree.item? position with
    | none => .error .missing
    | some item => item.text

theorem placeAt_eq (tree : Tree) (start : Position) (path : String) :
    tree.placeAt start path = tree.placeOf (tree.resolve start path) := by
  rw [placeAt]
  cases tree.resolve start path with
  | ok position => rfl
  | error fault => cases fault <;> rfl

theorem read_eq (tree : Tree) (start : Position) (path : String) :
    tree.read start path = tree.textOf (tree.resolve start path) :=
  rfl

/-- The items of a folder are those that stand one name below it. -/
theorem lookup_itemsAt (tree : Tree) (position : Position) (name : String) :
    (tree.itemsAt position).lookup name = tree.item? (name :: position) := by
  rw [item?, if_neg (List.cons_ne_nil name position), itemsAt]
  induction tree with
  | nil => rfl
  | cons entry tree ih =>
      obtain ⟨other, item⟩ := entry
      cases other with
      | nil => simpa [List.lookup_cons] using ih
      | cons last parent =>
          by_cases inside : parent = position
          · by_cases same : name = last <;> simp [List.lookup_cons, inside, same, ih]
          · have apart : (name :: position == last :: parent) = false := by
              simpa using fun _ => Ne.symm inside
            simpa [List.lookup_cons, inside, apart] using ih

/-! ### One step more -/

/-- A step fails because something is missing, is no folder, or has a name that is too
long. -/
theorem fault_of_step {position : Position} {fault : ReadFault}
    (failed : tree.step position name = .error fault) :
    fault ∈ [ReadFault.missing, .notFolder, .nameTooLong] := by
  unfold step at failed
  cases found : tree.item? position with
  | none =>
      simp only [found] at failed
      cases failed
      decide
  | some item =>
      cases item with
      | file bytes =>
          simp only [found] at failed
          cases failed
          decide
      | folder =>
          simp only [found] at failed
          split at failed
          · contradiction
          split at failed
          · contradiction
          split at failed
          · cases failed
            decide
          split at failed
          · cases failed
            decide
          · contradiction

theorem fault_of_walk {position : Position} {names : List String} {fault : ReadFault}
    (failed : tree.walk position names = .error fault) :
    fault ∈ [ReadFault.missing, .notFolder, .nameTooLong] := by
  induction names generalizing position with
  | nil => contradiction
  | cons name names ih =>
      rw [walk] at failed
      cases stepped : tree.step position name with
      | ok next =>
          rw [stepped] at failed
          exact ih failed
      | error other =>
          rw [stepped] at failed
          cases failed
          exact fault_of_step stepped

theorem walk_append (tree : Tree) (position : Position) (front back : List String) :
    tree.walk position (front ++ back) =
      (tree.walk position front).bind fun next => tree.walk next back := by
  induction front generalizing position with
  | nil => rfl
  | cons name front ih =>
      rw [List.cons_append, walk, walk]
      cases tree.step position name with
      | ok next => exact ih next
      | error fault => rfl

theorem walk_concat (tree : Tree) (position : Position) (front : List String) (name : String) :
    tree.walk position (front ++ [name]) =
      (tree.walk position front).bind fun next => tree.step next name := by
  rw [walk_append]
  congr 1
  funext next
  rw [walk]
  cases tree.step next name <;> rfl

/-- A step in place does not change what is found, only that it has to be a
folder. -/
theorem read_placeOf_stay (outcome : Except ReadFault Position) (name : String) :
    (tree.placeOf (outcome.bind fun position => tree.step position ".")).read name =
      (tree.placeOf outcome).read name := by
  cases outcome with
  | error fault => rfl
  | ok position =>
      rw [Except.bind, step]
      cases found : tree.item? position with
      | none => simp [placeOf, found, Place.read]
      | some item =>
          cases item with
          | file bytes => simp [placeOf, found, Place.read]
          | folder => simp

/-- Reading an item of a place is reading with one step more. -/
theorem read_placeOf (plain : IsPlainName name) {outcome : Except ReadFault Position}
    (faults : ∀ fault, outcome = .error fault →
      fault ∈ [ReadFault.missing, .notFolder, .nameTooLong]) :
    (tree.placeOf outcome).read name =
      tree.textOf (outcome.bind fun position => tree.step position name) := by
  cases outcome with
  | error fault =>
      have among := faults fault rfl
      cases fault with
      | missing | notFolder | nameTooLong => rfl
      | isFolder | notText => simp at among
  | ok position =>
      rw [Except.bind, step]
      cases found : tree.item? position with
      | none => simp [placeOf, found, Place.read, textOf, Except.bind]
      | some item =>
          cases item with
          | file bytes => simp [placeOf, found, Place.read, textOf, Except.bind]
          | folder =>
              simp only [placeOf, found, Place.read, lookup_itemsAt, plain.notHere, plain.notAbove,
                if_false]
              by_cases long : isTooLong name = true
              · simp [long, textOf, Except.bind]
              · cases item : tree.item? (name :: position) <;>
                  simp [long, textOf, Except.bind, item]

end Tree

/-! ## The main statement -/

/-- A path is shorter than the paths of what is in its folder. -/
theorem isTooLongPath_childPath {path name : String} (long : isTooLongPath path = true) :
    isTooLongPath (childPath path name) = true := by
  have longer : ∃ more, (childPath path name).toList = path.toList ++ more := by
    rw [childPath]
    split
    · exact ⟨_, String.toList_append⟩
    · exact ⟨'/' :: name.toList, by simp⟩
  obtain ⟨more, split⟩ := longer
  rw [isTooLongPath, decide_eq_true_eq, byteLength] at long ⊢
  rw [split, Utf8.encode, List.flatMap_append, List.length_append]
  exact Nat.lt_of_lt_of_le long (Nat.le_add_right _ _)

theorem Tree.resolve_eq {path : String} (nonempty : path ≠ "") (short : ¬isTooLongPath path = true)
    (tree : Tree) (start : Position) :
    tree.resolve start path = tree.walk (Tree.origin start path) (steps path) := by
  rw [resolve, if_neg nonempty, if_neg short]

/-- The path under which a folder is found. An empty path stands for the folder in
which paths begin. -/
def folderPath (path : String) : String :=
  if path = "" then "." else path

theorem folderPath_eq (path : String) :
    folderPath path ≠ "" ∧ steps (folderPath path) = steps path ∧
      (∀ start, Tree.origin start (folderPath path) = Tree.origin start path) ∧
      (isTooLongPath (folderPath path) = true → isTooLongPath path = true) := by
  rw [folderPath]
  split
  · next empty =>
      rw [empty]
      exact ⟨by decide, by decide, fun start => rfl, by decide +kernel⟩
  · next nonempty => exact ⟨nonempty, rfl, fun start => rfl, id⟩

/-- What is read under the path of an item is what the place at the path of the folder
holds under its name. -/
theorem read_childPath {name : String} (plain : IsPlainName name) (tree : Tree) (start : Position)
    (path : String) :
    tree.read start (childPath path name) =
      if isTooLongPath (childPath path name) then .error .nameTooLong
      else (tree.placeAt start (folderPath path)).read name := by
  obtain ⟨nonempty, way, origin, longer⟩ := folderPath_eq path
  have named := childPath_ne_empty plain path
  rw [Tree.read_eq]
  by_cases long : isTooLongPath (childPath path name) = true
  · rw [Tree.resolve, if_neg named, if_pos long, if_pos long]
    rfl
  · have short : ¬isTooLongPath (folderPath path) = true := fun tooLong =>
      long (isTooLongPath_childPath (longer tooLong))
    rw [if_neg long, Tree.placeAt_eq, Tree.resolve_eq named long, Tree.resolve_eq nonempty short,
      origin, way, origin_childPath plain, steps_childPath plain, Tree.walk_concat]
    calc
      _ = (tree.placeOf (tree.walk (Tree.origin start path) (namesOn path))).read name :=
        (Tree.read_placeOf plain fun fault failed => Tree.fault_of_walk failed).symm
      _ = (tree.placeOf (tree.walk (Tree.origin start path) (steps path))).read name := by
        rw [steps_eq]
        split
        · rw [Tree.walk_concat, Tree.read_placeOf_stay]
        · rw [List.append_nil]

/-- A plain name leads from a folder to an item directly below it. -/
theorem Tree.step_eq_ok {name : String} (plain : IsPlainName name) {tree : Tree}
    {folder position : Position} (stepped : tree.step folder name = .ok position) :
    tree.item? folder = some .folder ∧ position = name :: folder := by
  unfold step at stepped
  cases found : tree.item? folder with
  | none => simp [found] at stepped
  | some item =>
      cases item with
      | file bytes => simp [found] at stepped
      | folder =>
          simp only [found, plain.notHere, plain.notAbove, if_false] at stepped
          split at stepped
          · contradiction
          split at stepped
          · contradiction
          · exact ⟨rfl, (Except.ok.inj stepped).symm⟩

/-- The path of an item leads directly below the folder at the path, if it leads
anywhere. -/
theorem exists_folder_of_resolve {name : String} (plain : IsPlainName name) {tree : Tree}
    {start position : Position} {path : String}
    (resolved : tree.resolve start (childPath path name) = .ok position) :
    ∃ folder, tree.resolve start (folderPath path) = .ok folder ∧ position = name :: folder := by
  obtain ⟨nonempty, way, origin, longer⟩ := folderPath_eq path
  by_cases long : isTooLongPath (childPath path name) = true
  · rw [Tree.resolve, if_neg (childPath_ne_empty plain path), if_pos long] at resolved
    contradiction
  have short : ¬isTooLongPath (folderPath path) = true := fun tooLong =>
    long (isTooLongPath_childPath (longer tooLong))
  rw [Tree.resolve_eq (childPath_ne_empty plain path) long, origin_childPath plain,
    steps_childPath plain, Tree.walk_concat] at resolved
  rw [Tree.resolve_eq nonempty short, origin, way, steps_eq]
  cases walked : tree.walk (Tree.origin start path) (namesOn path) with
  | error fault =>
      rw [walked] at resolved
      contradiction
  | ok folder =>
      rw [walked] at resolved
      obtain ⟨isFolder, below⟩ := Tree.step_eq_ok plain resolved
      refine ⟨folder, ?_, below⟩
      split
      · rw [Tree.walk_concat, walked, Except.bind, Tree.step, isFolder]
        rfl
      · rw [List.append_nil, walked]

end DiagramGraph.Storage
