import DiagramGraph.Shape.Name

/-!
# Shapes in memory

A store holds the texts of shapes by key, in the order of the keys. Storing
under a key that is taken replaces the text, and a name that is no name of a
shape changes nothing.
-/

namespace DiagramGraph.Shape

/-- Whether entries stand in strictly increasing order of their keys. -/
def Ordered (entries : List (String × String)) : Prop :=
  entries.Pairwise fun first second => first.1 < second.1

/-- The entries with one key set. -/
def setEntry (entries : List (String × String)) (key text : String) : List (String × String) :=
  match entries with
  | [] => [(key, text)]
  | (other, old) :: rest =>
      if key < other then (key, text) :: (other, old) :: rest
      else if key = other then (key, text) :: rest
      else (other, old) :: setEntry rest key text

theorem mem_setEntry {entries : List (String × String)} {key text : String}
    {entry : String × String} (member : entry ∈ setEntry entries key text) :
    entry = (key, text) ∨ entry ∈ entries := by
  induction entries with
  | nil => simpa [setEntry] using member
  | cons first rest ih =>
      obtain ⟨other, old⟩ := first
      simp only [setEntry] at member
      split at member
      · simpa using member
      · split at member
        · rcases List.mem_cons.1 member with equal | member
          · exact .inl equal
          · exact .inr (List.mem_cons_of_mem _ member)
        · rcases List.mem_cons.1 member with equal | member
          · exact .inr (by simp [equal])
          · rcases ih member with equal | member
            · exact .inl equal
            · exact .inr (List.mem_cons_of_mem _ member)

/-- Setting a key keeps the order. -/
theorem ordered_setEntry {entries : List (String × String)} (ordered : Ordered entries)
    (key text : String) : Ordered (setEntry entries key text) := by
  induction entries with
  | nil => simp [setEntry, Ordered]
  | cons first rest ih =>
      obtain ⟨other, old⟩ := first
      have parts := List.pairwise_cons.1 ordered
      simp only [setEntry]
      split
      · next before =>
          refine List.pairwise_cons.2 ⟨?_, ordered⟩
          intro entry member
          rcases List.mem_cons.1 member with rfl | member
          · exact before
          · exact String.lt_trans before (parts.1 entry member)
      · split
        · next equal =>
            subst equal
            exact List.pairwise_cons.2 ⟨parts.1, parts.2⟩
        · next notBefore different =>
            refine List.pairwise_cons.2 ⟨?_, ih parts.2⟩
            intro entry member
            rcases mem_setEntry member with rfl | member
            · have atMost : other ≤ key := String.not_lt.1 notBefore
              refine Decidable.byContradiction fun notAfter => ?_
              exact different (String.le_antisymm (String.not_lt.1 notAfter) atMost)
            · exact parts.1 entry member

/-- Shapes by key, in the order of the keys. -/
structure Store where
  entries : List (String × String) := []
  ordered : Ordered entries := by exact List.Pairwise.nil

namespace Store

/-- The store after a text was stored under a name. -/
def insert (store : Store) (name text : String) : Store :=
  match key? name with
  | none => store
  | some key => ⟨setEntry store.entries key text, ordered_setEntry store.ordered key text⟩

/-- The shape with a given name. -/
def get (store : Store) (name : String) : Except Missing String :=
  match (key? name).bind fun key => store.entries.lookup key with
  | some text => .ok text
  | none => .error (.notFound name)

/-- The names of all shapes as they are shown, in the order of their keys. -/
def names (store : Store) : List String :=
  store.entries.map fun (key, _) => displayName key

end Store

end DiagramGraph.Shape
