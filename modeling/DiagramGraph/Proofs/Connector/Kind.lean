import DiagramGraph.Proofs.Connector.Mirror
import DiagramGraph.Proofs.Text.Run
import Mathlib.Data.Bool.AllAny

/-!
# What decides the kind of a connector

The kind of a connector is looked up by fragments that may stand anywhere in it. Every
fragment holds two marks of the shaft, and these stand nowhere but in the shaft. So a
fragment can only be found at an end of the shaft, and what decides are the adornments
next to it and whether the shaft is made of dashes or of dots. Its length does not
count.
-/

namespace DiagramGraph

open DiagramGraph.Text

/-! ## Signs next to a shaft -/

/-- A sign stands next to the shaft, on the left as it is or on the right as it is
seen from behind. -/
def Adjoins (sign left right : List Char) : Prop :=
  sign <:+ left ∨ mirrored sign <+: right

instance (sign left right : List Char) : Decidable (Adjoins sign left right) :=
  inferInstanceAs (Decidable (_ ∨ _))

example (left right : List Char) :
    Adjoins ['<', '|'] left right ↔ ['<', '|'] <:+ left ∨ ['|', '>'] <+: right :=
  Iff.rfl

/-- A connector has a sign and two marks of a shaft side by side, seen from the front or
from behind. -/
def ShowsSign (mark : Char) (sign connector : List Char) : Prop :=
  sign ++ [mark, mark] <:+: connector ∨ [mark, mark] ++ mirrored sign <:+: connector

instance (mark : Char) (sign connector : List Char) : Decidable (ShowsSign mark sign connector) :=
  inferInstanceAs (Decidable (_ ∨ _))

section Shaft

variable {mark : Char} {sign left right : List Char} {count : Nat}

/-- The first mark ends what stands in front of it. -/
theorem eq_of_append_mark_eq {front other back further : List Char} (plainFront : mark ∉ front)
    (plainOther : mark ∉ other) (same : front ++ mark :: back = other ++ mark :: further) :
    front = other := by
  have taken (text rest : List Char) (plain : mark ∉ text) :
      (text ++ mark :: rest).takeWhile (· != mark) = text := by
    apply takeWhile_run_append
    · intro char member
      simpa using ne_of_mem_of_not_mem member plain
    · simp
  rw [← taken front back plainFront, same, taken other further plainOther]

/-- A shaft without adornments on the left has no fragment that begins with a sign. -/
theorem not_infix_shaft (nonempty : sign ≠ []) (plainSign : mark ∉ sign) (plainRight : mark ∉ right)
    (count : Nat) : ¬ sign ++ [mark, mark] <:+: List.replicate count mark ++ right := by
  induction count with
  | zero =>
      intro within
      exact plainRight (within.subset (by simp))
  | succ count ih =>
      rw [List.replicate_succ, List.cons_append, List.infix_cons_iff]
      rintro (starts | within)
      · rcases List.exists_cons_of_ne_nil nonempty with ⟨first, more, rfl⟩
        rw [List.cons_append, List.cons_prefix_cons] at starts
        exact plainSign (by simp [starts.1])
      · exact ih within

/-- A fragment with a sign on the left is found at the left end of the shaft. -/
theorem sign_shaft_infix_iff (nonempty : sign ≠ []) (plainSign : mark ∉ sign)
    (plainLeft : mark ∉ left) (plainRight : mark ∉ right) (long : 2 ≤ count) :
    sign ++ [mark, mark] <:+: left ++ (List.replicate count mark ++ right) ↔ sign <:+ left := by
  rcases Nat.exists_eq_add_of_le' long with ⟨more, rfl⟩
  have shaft : List.replicate (more + 2) mark ++ right =
      mark :: mark :: (List.replicate more mark ++ right) := rfl
  constructor
  · intro within
    induction left with
    | nil => exact absurd within (not_infix_shaft nonempty plainSign plainRight (more + 2))
    | cons char left ih =>
        rw [List.cons_append, List.infix_cons_iff, ← List.cons_append] at within
        rcases within with ⟨back, split⟩ | within
        · rw [List.append_assoc, shaft] at split
          rw [eq_of_append_mark_eq plainSign plainLeft split]
        · rw [List.mem_cons, not_or] at plainLeft
          exact (ih plainLeft.2 within).trans (List.suffix_cons char left)
  · rintro ⟨front, rfl⟩
    exact ⟨front, List.replicate more mark ++ right, by simp [shaft]⟩

theorem mirrored_replicate (plain : mirrorChar mark = mark) (count : Nat) :
    mirrored (List.replicate count mark) = List.replicate count mark := by
  rw [mirrored, List.map_replicate, List.reverse_replicate, plain]

/-- A fragment with a sign on the right is found at the right end of the shaft. -/
theorem shaft_sign_infix_iff (symmetric : mirrorChar mark = mark) (nonempty : sign ≠ [])
    (plainSign : mark ∉ sign) (plainLeft : mark ∉ left) (plainRight : mark ∉ right)
    (long : 2 ≤ count) :
    [mark, mark] ++ mirrored sign <:+: left ++ (List.replicate count mark ++ right) ↔
      mirrored sign <+: right := by
  have plain {text : List Char} (free : mark ∉ text) : mark ∉ mirrored text := by
    rwa [mem_mirrored, symmetric]
  have fragment : [mark, mark] ++ mirrored sign = mirrored (sign ++ [mark, mark]) := by
    rw [mirrored_append]
    exact congrArg (· ++ mirrored sign) (mirrored_replicate symmetric 2).symm
  have connector : left ++ (List.replicate count mark ++ right) =
      mirrored (mirrored right ++ (List.replicate count mark ++ mirrored left)) := by
    simp only [mirrored_append, mirrored_mirrored, mirrored_replicate symmetric, List.append_assoc]
  rw [fragment, connector, mirrored_infix_iff,
    sign_shaft_infix_iff nonempty plainSign (plain plainRight) (plain plainLeft) long,
    ← mirrored_prefix_iff, mirrored_mirrored]

/-- A connector shows a sign where the sign stands next to the shaft. -/
theorem showsSign_iff_adjoins (symmetric : mirrorChar mark = mark) (nonempty : sign ≠ [])
    (plainSign : mark ∉ sign) (plainLeft : mark ∉ left) (plainRight : mark ∉ right)
    (long : 2 ≤ count) :
    ShowsSign mark sign (left ++ (List.replicate count mark ++ right)) ↔
      Adjoins sign left right := by
  rw [ShowsSign, sign_shaft_infix_iff nonempty plainSign plainLeft plainRight long,
    shaft_sign_infix_iff symmetric nonempty plainSign plainLeft plainRight long, Adjoins]

/-- A connector without a mark shows nothing next to such marks. -/
theorem not_showsSign {connector : List Char} (plain : mark ∉ connector) :
    ¬ ShowsSign mark sign connector := by
  rintro (within | within)
  · exact plain (within.subset (by simp))
  · exact plain (within.subset (by simp))

end Shaft

/-! ## The kind of a connector -/

/-- The kind of a connector of dashes with these adornments. -/
def dashedKind (left right : List Char) : RelationshipKind :=
  if Adjoins ['<', '|'] left right then .extension
  else if Adjoins ['*'] left right then .composition
  else if Adjoins ['o'] left right then .aggregation
  else if Adjoins ['<'] left right then .dependency
  else .association

/-- The kind of a connector of dots with these adornments. -/
def dottedKind (left right : List Char) : RelationshipKind :=
  if Adjoins ['<', '|'] left right then .implementation
  else if Adjoins ['<'] left right then .dependency
  else .association

namespace RelationshipKind

/-- The table of fragments, row by row. -/
theorem ofConnector_eq (connector : List Char) :
    ofConnector connector =
      if ShowsSign '-' ['<', '|'] connector then .extension
      else if ShowsSign '.' ['<', '|'] connector then .implementation
      else if ShowsSign '-' ['*'] connector then .composition
      else if ShowsSign '-' ['o'] connector then .aggregation
      else if ShowsSign '-' ['<'] connector then .dependency
      else if ShowsSign '.' ['<'] connector then .dependency
      else .association := by
  -- A row has the fragments of one sign with one mark, seen from both sides.
  have row (fragments : List String) (mark : Char) (sign : List Char)
      (both : fragments.map String.toList ⊆ [sign ++ [mark, mark], [mark, mark] ++ mirrored sign] ∧
        [sign ++ [mark, mark], [mark, mark] ++ mirrored sign] ⊆ fragments.map String.toList) :
      (fragments.any fun fragment => occursIn fragment.toList connector) =
        decide (ShowsSign mark sign connector) := by
    rw [Bool.eq_iff_iff, decide_eq_true_iff]
    calc
      _ ↔ ∃ text ∈ fragments.map String.toList, text <:+: connector := by
        simp [List.any_eq_true, occursIn_iff]
      _ ↔ ∃ text ∈ [sign ++ [mark, mark], [mark, mark] ++ mirrored sign], text <:+: connector :=
        ⟨fun ⟨text, member, within⟩ => ⟨text, both.1 member, within⟩,
          fun ⟨text, member, within⟩ => ⟨text, both.2 member, within⟩⟩
      _ ↔ ShowsSign mark sign connector := by simp [ShowsSign]
  unfold ofConnector kindFragments
  simp only [List.find?_cons, List.find?_nil, row ["<|--", "--|>"] '-' ['<', '|'] (by decide),
    row ["<|..", "..|>"] '.' ['<', '|'] (by decide), row ["*--", "--*"] '-' ['*'] (by decide),
    row ["o--", "--o"] '-' ['o'] (by decide), row ["-->", "<--"] '-' ['<'] (by decide),
    row ["..>", "<.."] '.' ['<'] (by decide)]
  split_ifs <;> simp [*]

section Adorned

variable {left right : List Char}
  (leftAdorns : ∀ char ∈ left, char ∈ AdornedConnector.leftAdornments)
  (rightAdorns : ∀ char ∈ right, char ∈ AdornedConnector.rightAdornments)

include leftAdorns rightAdorns

/-- Adornments are no marks of a shaft. -/
theorem notMem_adornments {mark : Char} (isShaft : mark ∈ ['-', '.']) :
    mark ∉ left ∧ mark ∉ right := by
  have outside : ∀ mark ∈ ['-', '.'], mark ∉ AdornedConnector.leftAdornments ∧
      mark ∉ AdornedConnector.rightAdornments := List.all_iff_forall_prop.1 (by decide)
  exact ⟨fun member => (outside mark isShaft).1 (leftAdorns mark member),
    fun member => (outside mark isShaft).2 (rightAdorns mark member)⟩

/-- What a connector with a long shaft shows: signs next to the shaft, and only with the
marks of the shaft. -/
theorem showsSign_adorned {mark other : Char} (isShaft : mark ∈ ['-', '.'])
    (isOther : other ∈ ['-', '.']) {sign : List Char} (nonempty : sign ≠ [])
    (plain : mark ∉ sign) {count : Nat} (long : 2 ≤ count) :
    ShowsSign other sign (left ++ (List.replicate count mark ++ right)) ↔
      other = mark ∧ Adjoins sign left right := by
  have free := notMem_adornments leftAdorns rightAdorns isShaft
  have freeOther := notMem_adornments leftAdorns rightAdorns isOther
  have symmetric : ∀ mark ∈ ['-', '.'], mirrorChar mark = mark :=
    List.all_iff_forall_prop.1 (by decide)
  by_cases same : other = mark
  · rw [same, showsSign_iff_adjoins (symmetric mark isShaft) nonempty plain free.1 free.2 long]
    simp
  · have absent : other ∉ left ++ (List.replicate count mark ++ right) := by
      simp [freeOther, List.mem_replicate, same]
    simp [same, not_showsSign absent]

/-- With a shaft of at least two dashes, the adornments next to it decide. -/
theorem ofConnector_dashes {count : Nat} (long : 2 ≤ count) :
    ofConnector (left ++ (List.replicate count '-' ++ right)) = dashedKind left right := by
  simp [ofConnector_eq, showsSign_adorned leftAdorns rightAdorns, long, dashedKind]

/-- With a shaft of at least two dots, the adornments next to it decide. -/
theorem ofConnector_dots {count : Nat} (long : 2 ≤ count) :
    ofConnector (left ++ (List.replicate count '.' ++ right)) = dottedKind left right := by
  simp [ofConnector_eq, showsSign_adorned leftAdorns rightAdorns, long, dottedKind]

end Adorned

end RelationshipKind

end DiagramGraph
