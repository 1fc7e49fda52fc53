import DiagramGraph.Proofs.Shape.Directory
import DiagramGraph.Proofs.Shape.Store

/-!
# The same shapes in a folder and in memory

A folder mirrors a run of insertions if it holds just the texts that the run
stores last, each in the file of its key. Then every request for a shape is
answered alike, as far as the file can be reached. The same names are listed, by
the folder always in order, by the store unless capitals make two keys change
places.
-/

namespace DiagramGraph.Shape

open DiagramGraph.Storage DiagramGraph.Text

/-- Whether a folder holds the texts that a run of insertions stores last, each
in the file that is named after its key, and nothing else. -/
structure Mirrors (directory : Directory) (inserts : List (String × String)) : Prop where
  distinct : directory.place.Distinct
  holds : ∃ items, directory.place = .folder items ∧
    ∀ file item, (file, item) ∈ items ↔
      ∃ key text, lastText? inserts key = some text ∧
        file = fileName key ∧ item = .file (Utf8.encode text.toList)

/-- The folder at a path that mirrors a run of insertions. -/
def mirror (path : String) (inserts : List (String × String)) : Directory where
  path := path
  place :=
    .folder ((Store.ofInserts inserts).entries.map fun (key, text) =>
      (fileName key, .file (Utf8.encode text.toList)))

theorem mirrors_mirror (path : String) (inserts : List (String × String)) :
    Mirrors (mirror path inserts) inserts := by
  have keys := Store.nodup_keys (Store.ofInserts inserts)
  constructor
  · have files := keys.map fun first second same => fileName_inj.1 same
    rw [List.map_map] at files
    rwa [mirror, Place.distinct_folder, List.map_map]
  · refine ⟨_, rfl, ?_⟩
    intro file item
    rw [List.mem_map]
    constructor
    · rintro ⟨⟨key, text⟩, member, same⟩
      have stored := (lookup_eq_some_iff_mem keys).2 member
      rw [Store.lookup_ofInserts] at stored
      rcases Prod.mk.inj same with ⟨rfl, rfl⟩
      exact ⟨key, text, stored, rfl, rfl⟩
    · rintro ⟨key, text, stored, rfl, rfl⟩
      rw [← Store.lookup_ofInserts] at stored
      exact ⟨(key, text), (lookup_eq_some_iff_mem keys).1 stored, rfl⟩

namespace Mirrors

variable {directory : Directory} {inserts : List (String × String)}
  (mirrors : Mirrors directory inserts)

include mirrors

/-- A file in reach holds the text stored last under its key. -/
theorem readFile_eq {key : String} (reaches : directory.Reaches (fileName key)) :
    directory.readFile (fileName key) =
      match lastText? inserts key with
      | some text => .ok text
      | none => .error .missing := by
  rcases mirrors.holds with ⟨items, place, holds⟩
  cases stored : lastText? inserts key with
  | some text =>
      have member := (holds _ _).2 ⟨key, text, stored, rfl, rfl⟩
      exact Directory.readFile_of_mem place mirrors.distinct member reaches
  | none =>
      have absent : items.lookup (fileName key) = none := by
        rw [List.lookup_eq_none_iff]
        rintro ⟨file, item⟩ member
        rcases (holds file item).1 member with ⟨other, text, found, rfl, -⟩
        rw [bne_iff_ne]
        intro same
        rw [fileName_inj.1 same, found] at stored
        contradiction
      rw [Directory.readFile, place, reaches.1, if_neg Bool.false_ne_true, Place.read, reaches.2,
        if_neg Bool.false_ne_true, absent]

/-- Requests for files in reach are answered alike. -/
theorem get_eq {name : String}
    (reaches : ∀ key, key? name = some key → directory.Reaches (fileName key)) :
    directory.get name = (Store.ofInserts inserts).get name := by
  rw [Store.get_ofInserts]
  cases named : key? name with
  | none => simp [Directory.get, named]
  | some key =>
      have read := mirrors.readFile_eq (reaches key named)
      cases stored : lastText? inserts key with
      | some text => simp [Directory.get, named, read, stored]
      | none => simp [Directory.get, named, read, stored]

/-- The stems in the folder are the keys in the store. -/
theorem stems_perm :
    directory.stems.Perm ((Store.ofInserts inserts).entries.map Prod.fst) := by
  rw [List.perm_ext_iff_of_nodup (Directory.nodup_stems mirrors.distinct) (Store.nodup_keys _)]
  intro key
  rw [Directory.mem_stems, Store.mem_keys_ofInserts, IsStored]
  rcases mirrors.holds with ⟨items, place, holds⟩
  rw [place]
  constructor
  · rintro ⟨files, names, listed⟩
    rw [← Except.ok.inj names] at listed
    rcases List.mem_map.1 listed with ⟨⟨file, item⟩, member, same⟩
    rcases (holds file item).1 member with ⟨other, text, stored, found, -⟩
    rw [found, fileName_inj] at same
    exact ⟨text, same ▸ stored⟩
  · rintro ⟨text, stored⟩
    have member := (holds _ _).2 ⟨key, text, stored, rfl, rfl⟩
    exact ⟨_, rfl, List.mem_map.2 ⟨_, member, rfl⟩⟩

/-- The folder lists the names of the store in ascending order. -/
theorem names_eq :
    ∃ listed, directory.names = .ok listed ∧ listed.Pairwise (· ≤ ·) ∧
      listed.Perm (Store.ofInserts inserts).names := by
  rcases mirrors.holds with ⟨items, place, -⟩
  have files : directory.place.names = .ok (items.map Prod.fst) := by rw [place, Place.names]
  rcases Directory.exists_names files with ⟨listed, names⟩
  refine ⟨listed, names, Directory.names_ascending names, ?_⟩
  have shown := (Directory.names_perm names).trans (mirrors.stems_perm.map displayName)
  rwa [List.map_map] at shown

end Mirrors

/-- A folder and a store with the same shapes agree on every request for a shape
whose file is in reach, and the folder reports the others as too long. Both list
the same names, in the same order exactly if no two keys change places. -/
theorem directory_agrees_with_store {directory : Directory} {inserts : List (String × String)}
    (mirrors : Mirrors directory inserts) :
    (∀ name, (∀ key, key? name = some key → directory.Reaches (fileName key)) →
      directory.get name = (Store.ofInserts inserts).get name) ∧
    (∀ name key, key? name = some key → ¬ directory.Reaches (fileName key) →
      directory.get name =
        .error (.unreadable
          (directory.filePath (fileName key) ++ ": " ++ ReadFault.nameTooLong.message))) ∧
    ∃ listed, directory.names = .ok listed ∧ listed.Pairwise (· ≤ ·) ∧
      listed.Perm (Store.ofInserts inserts).names ∧
      ((Store.ofInserts inserts).names = listed ↔
        ¬ ∃ first second, IsStored inserts first ∧ IsStored inserts second ∧
          ChangePlaces first second) := by
  rcases mirrors.names_eq with ⟨listed, names, ascending, perm⟩
  refine ⟨fun name reaches => mirrors.get_eq reaches, ?_, listed, names, ascending, perm, ?_⟩
  · intro name key named far
    rcases mirrors.holds with ⟨items, place, -⟩
    exact Directory.get_of_not_reaches place named far
  · rw [← Store.names_ascending_iff]
    constructor
    · intro same
      rwa [same]
    · intro sorted
      exact perm.symm.eq_of_pairwise (fun _ _ _ _ => String.le_antisymm) sorted ascending

/-- Names in different cases, one of them stored twice. -/
def exampleInserts : List (String × String) :=
  [("Class", "old"), ("ERD", "entities"), ("class", "new")]

theorem mirror_exampleInserts_agrees :
    Mirrors (mirror "shapes" exampleInserts) exampleInserts ∧
      (mirror "shapes" exampleInserts).get "CLASS" = .ok "new" ∧
      (mirror "shapes" exampleInserts).names = .ok ["Class", "Erd"] := by
  have mirrors := mirrors_mirror "shapes" exampleInserts
  rcases directory_agrees_with_store mirrors with ⟨fetched, -, listed, names, -, -, order⟩
  refine ⟨mirrors, ?_, ?_⟩
  · rw [fetched "CLASS"]
    · decide +kernel
    · have named : key? "CLASS" = some "class" := by decide +kernel
      intro key found
      rw [named, Option.some.injEq] at found
      rw [← found, Directory.Reaches]
      decide +kernel
  · have same : (Store.ofInserts exampleInserts).names = ["Class", "Erd"] := by decide +kernel
    have straight := (Store.names_ascending_iff exampleInserts).1 (by rw [same]; decide)
    rw [names, ← order.2 straight, same]

/-- A name with a number of letters. -/
def letters (count : Nat) : String :=
  String.ofList (List.replicate count 'a')

theorem key?_letters {count : Nat} (positive : 0 < count) :
    key? (letters count) = some (letters count) := by
  rw [key?_eq_some_iff, letters, String.toList_ofList]
  refine ⟨?_, ?_, ?_⟩
  · rw [Ne, List.replicate_eq_nil_iff]
    omega
  · rw [List.all_replicate, if_neg (by omega)]
    decide
  · rw [asciiLower, List.map_replicate]
    rfl

/-- A folder and a store with the same shapes need not agree: the store does not
list its names in order where two keys change places, and the folder has an
answer of its own for a name that is too long. -/
theorem exists_disagreement :
    (¬ ∀ directory inserts, Mirrors directory inserts →
      directory.names = .ok (Store.ofInserts inserts).names) ∧
    ¬ ∀ directory inserts, Mirrors directory inserts →
      ∀ name, directory.get name = (Store.ofInserts inserts).get name := by
  constructor
  · intro agree
    have names := agree _ _ (mirrors_mirror "shapes" [("_a", "x"), ("class", "y")])
    have listed : (Store.ofInserts [("_a", "x"), ("class", "y")]).names = ["_a", "Class"] := by
      decide +kernel
    have ascending := Directory.names_ascending names
    rw [listed] at ascending
    exact absurd ascending (by decide)
  · intro agree
    have same := agree _ _ (mirrors_mirror "shapes" []) (letters 300)
    have named : key? (letters 300) = some (letters 300) := key?_letters (by decide)
    have long : isTooLong (fileName (letters 300)) = true := by
      rw [Directory.isTooLong_fileName named, letters, String.toList_ofList,
        List.length_replicate]
      rfl
    have far : ¬ (mirror "shapes" []).Reaches (fileName (letters 300)) := by
      rw [Directory.Reaches, long]
      exact fun reaches => Bool.noConfusion reaches.2
    have missing : (Store.ofInserts []).get (letters 300) = .error (.notFound (letters 300)) := by
      rw [Store.get_ofInserts, named]
      rfl
    rw [missing, Directory.get_of_not_reaches rfl named far] at same
    exact Missing.noConfusion (Except.error.inj same)

end DiagramGraph.Shape
