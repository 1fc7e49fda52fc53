import DiagramGraph.Proofs.Shape.Name
import DiagramGraph.Shape.Store

/-!
# Runs of a shape store

What a store holds after a run of insertions: under each key the text that was
stored last under a name with that key, and nothing else. One insertion changes
one key at most, so the statement about runs follows by induction. The list of
names keeps the order of the keys, which is not always the order of the names.
-/

namespace DiagramGraph.Shape

theorem lookup_entry_cons (head text : String) (rest : List (String × String)) (key : String) :
    ((head, text) :: rest).lookup key = if key = head then some text else rest.lookup key := by
  by_cases same : key = head
  · rw [same, List.lookup_cons_self, if_pos rfl]
  · rw [List.lookup_cons, beq_false_of_ne same, if_neg same]

/-- Setting an entry changes what is found under its key, and nothing else. -/
theorem lookup_setEntry (entries : List (String × String)) (key text other : String) :
    (setEntry entries key text).lookup other =
      if other = key then some text else entries.lookup other := by
  induction entries with
  | nil => rw [setEntry, lookup_entry_cons]
  | cons first rest ih =>
      rcases first with ⟨head, old⟩
      rw [setEntry]
      by_cases before : key < head
      · rw [if_pos before, lookup_entry_cons]
      · rw [if_neg before]
        by_cases equal : key = head
        · rw [if_pos equal, lookup_entry_cons, lookup_entry_cons, ← equal]
          by_cases same : other = key
          · rw [if_pos same, if_pos same]
          · rw [if_neg same, if_neg same, if_neg same]
        · rw [if_neg equal, lookup_entry_cons, lookup_entry_cons, ih]
          by_cases same : other = key
          · have apart : other ≠ head := same ▸ equal
            rw [if_neg apart, if_pos same, if_pos same]
          · rw [if_neg same, if_neg same]

namespace Store

/-- One insertion sets the key of its name, if the text is a name. -/
theorem lookup_insert (store : Store) (name text key : String) :
    (store.insert name text).entries.lookup key =
      if key? name = some key then some text else store.entries.lookup key := by
  rw [insert]
  cases named : key? name with
  | none => rfl
  | some found =>
      rw [lookup_setEntry]
      simp only [Option.some.injEq, eq_comm]

/-- The store after several insertions. -/
def insertAll (store : Store) (inserts : List (String × String)) : Store :=
  inserts.foldl (fun store (name, text) => store.insert name text) store

end Store

/-- The text that a run of insertions stores last under a key. -/
def lastText? (inserts : List (String × String)) (key : String) : Option String :=
  (inserts.reverse.find? fun insertion => key? insertion.1 == some key).map Prod.snd

/-- A later text under the same key counts before an earlier one. -/
theorem lastText?_cons (name text : String) (later : List (String × String)) (key : String) :
    lastText? ((name, text) :: later) key =
      (lastText? later key).or (if key? name = some key then some text else none) := by
  rw [lastText?, lastText?, List.reverse_cons, List.find?_append, Option.map_or]
  by_cases same : key? name = some key
  · simp [same]
  · simp [same]

/-- Whether a run of insertions stores a text under a key. -/
def IsStored (inserts : List (String × String)) (key : String) : Prop :=
  ∃ text, lastText? inserts key = some text

theorem isStored_iff {inserts : List (String × String)} {key : String} :
    IsStored inserts key ↔ ∃ insertion ∈ inserts, key? insertion.1 = some key := by
  rw [IsStored, ← Option.isSome_iff_exists, lastText?, Option.isSome_map, List.find?_isSome]
  simp only [List.mem_reverse, beq_iff_eq]

theorem key?_of_isStored {inserts : List (String × String)} {key : String}
    (stored : IsStored inserts key) : key? key = some key := by
  rcases isStored_iff.1 stored with ⟨insertion, -, named⟩
  exact key?_key named

namespace Store

/-- After a run of insertions the text that was stored last is found under each
key, and what was there before where nothing was stored. -/
theorem lookup_insertAll (store : Store) (inserts : List (String × String)) (key : String) :
    (store.insertAll inserts).entries.lookup key =
      (lastText? inserts key).or (store.entries.lookup key) := by
  induction inserts generalizing store with
  | nil => rfl
  | cons insertion later ih =>
      rcases insertion with ⟨name, text⟩
      have onward : store.insertAll ((name, text) :: later) =
          (store.insert name text).insertAll later := rfl
      rw [onward, ih, lookup_insert, lastText?_cons, Option.or_assoc]
      by_cases same : key? name = some key
      · simp [same]
      · simp [same]

/-- The store that a run of insertions fills. -/
def ofInserts (inserts : List (String × String)) : Store :=
  insertAll {} inserts

theorem lookup_ofInserts (inserts : List (String × String)) (key : String) :
    (ofInserts inserts).entries.lookup key = lastText? inserts key := by
  rw [ofInserts, lookup_insertAll]
  exact Option.or_none

/-- The keys of a store are those under which a text was stored. -/
theorem mem_keys_ofInserts {inserts : List (String × String)} {key : String} :
    key ∈ (ofInserts inserts).entries.map Prod.fst ↔ IsStored inserts key := by
  rw [IsStored, ← lookup_ofInserts]
  constructor
  · intro member
    rcases List.mem_map.1 member with ⟨entry, listed, rfl⟩
    cases found : (ofInserts inserts).entries.lookup entry.1 with
    | some text => exact ⟨text, rfl⟩
    | none =>
        have other := List.lookup_eq_none_iff.1 found entry listed
        simp at other
  · rintro ⟨text, found⟩
    rcases List.lookup_eq_some_iff.1 found with ⟨before, after, split, -⟩
    exact List.mem_map.2 ⟨(key, text), by simp [split], rfl⟩

/-- The keys of a store differ. -/
theorem nodup_keys (store : Store) : (store.entries.map Prod.fst).Nodup := by
  rw [List.Nodup, List.pairwise_map]
  apply store.ordered.imp
  intro first second before same
  rw [same] at before
  exact String.lt_irrefl _ before

/-- Getting a shape gives the text stored last under its key. -/
theorem get_ofInserts (inserts : List (String × String)) (name : String) :
    (ofInserts inserts).get name =
      match (key? name).bind (lastText? inserts) with
      | some text => .ok text
      | none => .error (.notFound name) := by
  have found : (fun key => (ofInserts inserts).entries.lookup key) = lastText? inserts :=
    funext (lookup_ofInserts inserts)
  rw [← found]
  rfl

/-! ## The order of the list -/

/-- The names are listed in ascending order unless two keys change places where
they are shown. -/
theorem names_ascending_iff (inserts : List (String × String)) :
    (ofInserts inserts).names.Pairwise (· ≤ ·) ↔
      ¬ ∃ first second, IsStored inserts first ∧ IsStored inserts second ∧
        ChangePlaces first second := by
  have shown : (ofInserts inserts).names.Pairwise (· ≤ ·) ↔
      ((ofInserts inserts).entries.map Prod.fst).Pairwise
        fun first second => displayName first ≤ displayName second := by
    rw [names, List.pairwise_map, List.pairwise_map]
  have ordered : ((ofInserts inserts).entries.map Prod.fst).Pairwise (· < ·) :=
    List.pairwise_map.2 (ofInserts inserts).ordered
  rw [shown]
  constructor
  · rintro ascending ⟨first, second, firstStored, secondStored, swapped⟩
    rcases lt_of_changePlaces (key?_of_isStored firstStored) (key?_of_isStored secondStored)
      swapped with ⟨below, above⟩
    -- The second key is listed behind the first one, and shown before it.
    rcases List.append_of_mem (mem_keys_ofInserts.2 firstStored) with ⟨before, after, split⟩
    have secondMember := mem_keys_ofInserts.2 secondStored
    rw [split, List.pairwise_append, List.pairwise_cons] at ordered ascending
    rw [split, List.mem_append, List.mem_cons] at secondMember
    rcases secondMember with earlier | same | later
    · exact String.lt_asymm below (ordered.2.2 second earlier first List.mem_cons_self)
    · rw [same] at below
      exact String.lt_irrefl _ below
    · exact String.not_lt.2 (ascending.2.1.1 second later) above
  · intro straight
    apply ordered.imp_of_mem
    intro first second firstMember secondMember below
    have firstStored := mem_keys_ofInserts.1 firstMember
    have secondStored := mem_keys_ofInserts.1 secondMember
    apply String.not_lt.1
    apply String.lt_asymm
    apply displayName_lt (key?_of_isStored firstStored) (key?_of_isStored secondStored) below
    intro swapped
    exact straight ⟨first, second, firstStored, secondStored, swapped⟩

end Store

end DiagramGraph.Shape
