import DiagramGraph.Proofs.Text.Utf8
import DiagramGraph.Storage.Folder
import Mathlib.Data.List.Nodup

/-!
# Reading what a folder holds

A folder names each of its items once, so a name leads to the item that is
listed under it. Text is read as it was written, as far as the limits for names
let it be reached.
-/

namespace DiagramGraph.Storage

open DiagramGraph.Text

/-- The bytes of a text are read as the text. -/
theorem textOf_encode (text : String) : textOf (Utf8.encode text.toList) = .ok text := by
  rw [textOf, Utf8.decode_encode]
  exact congrArg Except.ok (String.ofList_toList (s := text))

/-- In a list that has each key once, looking up a key finds its entry. -/
theorem lookup_eq_some_iff_mem {α : Type} {entries : List (String × α)}
    (distinct : (entries.map Prod.fst).Nodup) {key : String} {value : α} :
    entries.lookup key = some value ↔ (key, value) ∈ entries := by
  rw [List.lookup_eq_some_iff]
  constructor
  · rintro ⟨before, after, rfl, -⟩
    exact List.mem_append_right before List.mem_cons_self
  · intro member
    rcases List.append_of_mem member with ⟨before, after, rfl⟩
    refine ⟨before, after, rfl, ?_⟩
    intro entry earlier
    rw [List.map_append, List.map_cons, List.nodup_middle, List.nodup_cons] at distinct
    rw [bne_iff_ne]
    intro same
    exact distinct.1 (List.mem_append_left _ (List.mem_map.2 ⟨entry, earlier, same.symm⟩))

namespace Place

/-- Whether a place names each of its items once, as every folder does. -/
def Distinct (place : Place) : Prop :=
  ∀ files, place.names = .ok files → files.Nodup

theorem distinct_folder {items : List (String × Item)} :
    (folder items).Distinct ↔ (items.map Prod.fst).Nodup := by
  constructor
  · intro distinct
    exact distinct _ rfl
  · intro nodup files names
    rwa [← Except.ok.inj names]

/-- What can be read is listed. -/
theorem names_of_read {place : Place} {name text : String} (found : place.read name = .ok text) :
    ∃ files, place.names = .ok files ∧ name ∈ files := by
  cases place with
  | missing => contradiction
  | file => contradiction
  | outOfReach => contradiction
  | folder items =>
      rw [read] at found
      split at found
      · contradiction
      · cases item : items.lookup name with
        | none =>
            rw [item] at found
            contradiction
        | some content =>
            rcases List.lookup_eq_some_iff.1 item with ⟨before, after, rfl, -⟩
            exact ⟨_, rfl, List.mem_map.2 ⟨(name, content), by simp, rfl⟩⟩

/-- A folder gives the text of each item whose name is short enough. -/
theorem read_of_mem {items : List (String × Item)} (distinct : (folder items).Distinct)
    {name : String} {item : Item} (member : (name, item) ∈ items)
    (short : isTooLong name = false) : (folder items).read name = item.text := by
  have found := (lookup_eq_some_iff_mem (distinct_folder.1 distinct)).2 member
  simp [read, short, found]

end Place

end DiagramGraph.Storage
