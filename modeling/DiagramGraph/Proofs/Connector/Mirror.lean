import DiagramGraph.Connector.Adorned
import DiagramGraph.Connector.CrowsFoot
import Mathlib.Data.List.Find
import Mathlib.Data.List.Infix

/-!
# Connectors in a mirror

A connector can be looked at from either side. Seen from behind it is written from
right to left, and its brackets open the other way. What a connector says does not
depend on the side from which it is looked at: its kind stays the same, and the
cardinalities change their ends.
-/

namespace DiagramGraph

open DiagramGraph.Text

/-! ## Mirrored texts -/

/-- A character as it is seen from behind. -/
def mirrorChar (char : Char) : Char :=
  if char = '<' then '>'
  else if char = '>' then '<'
  else if char = '\x7b' then '\x7d'
  else if char = '\x7d' then '\x7b'
  else char

/-- A text as it is seen from behind. -/
def mirrored (text : List Char) : List Char :=
  (text.map mirrorChar).reverse

theorem mirrorChar_mirrorChar (char : Char) : mirrorChar (mirrorChar char) = char := by
  unfold mirrorChar
  split_ifs <;> simp_all

@[simp]
theorem mirrored_mirrored (text : List Char) : mirrored (mirrored text) = text := by
  rw [mirrored, mirrored, List.map_reverse, List.reverse_reverse, List.map_map]
  exact List.map_id'' mirrorChar_mirrorChar text

theorem mirrored_append (front back : List Char) :
    mirrored (front ++ back) = mirrored back ++ mirrored front := by
  rw [mirrored, List.map_append, List.reverse_append, ← mirrored, ← mirrored]

theorem mirrored_inj {text other : List Char} : mirrored text = mirrored other ↔ text = other :=
  (Function.Involutive.injective mirrored_mirrored).eq_iff

theorem mem_mirrored {char : Char} {text : List Char} :
    char ∈ mirrored text ↔ mirrorChar char ∈ text := by
  rw [mirrored, List.mem_reverse]
  constructor
  · intro member
    rcases List.mem_map.1 member with ⟨other, listed, rfl⟩
    rwa [mirrorChar_mirrorChar]
  · intro member
    exact List.mem_map.2 ⟨mirrorChar char, member, mirrorChar_mirrorChar char⟩

/-- A mirrored text begins with what the text ends with. -/
theorem mirrored_prefix_iff {fragment text : List Char} :
    mirrored fragment <+: mirrored text ↔ fragment <:+ text := by
  constructor
  · rintro ⟨back, split⟩
    refine ⟨mirrored back, ?_⟩
    rw [← mirrored_mirrored fragment, ← mirrored_append, split, mirrored_mirrored]
  · rintro ⟨front, rfl⟩
    exact ⟨mirrored front, (mirrored_append front fragment).symm⟩

theorem mirrored_infix_iff {fragment text : List Char} :
    mirrored fragment <:+: mirrored text ↔ fragment <:+: text := by
  have forward {fragment text : List Char} (within : fragment <:+: text) :
      mirrored fragment <:+: mirrored text := by
    rcases within with ⟨front, back, rfl⟩
    refine ⟨mirrored back, mirrored front, ?_⟩
    rw [mirrored_append, mirrored_append, List.append_assoc]
  constructor
  · intro within
    simpa using forward within
  · exact forward

/-! ## Tables of fragments -/

/-- A fragment occurs in a text if the text has it anywhere. -/
theorem occursIn_iff {fragment text : List Char} :
    occursIn fragment text = true ↔ fragment <:+: text := by
  induction text with
  | nil => simp [occursIn]
  | cons char text ih =>
      rw [occursIn, Bool.or_eq_true, List.isPrefixOf_iff_prefix, ih, List.infix_cons_iff]

theorem occursIn_mirrored (fragment text : List Char) :
    occursIn (mirrored fragment) (mirrored text) = occursIn fragment text := by
  rw [Bool.eq_iff_iff, occursIn_iff, occursIn_iff, mirrored_infix_iff]

/-- With each text, a row of the table has the mirrored one. -/
def ClosedUnderMirror {Value : Type} (table : List (List String × Value)) : Prop :=
  ∀ row ∈ table, ∀ text ∈ row.1, mirrored text.toList ∈ row.1.map String.toList

instance {Value : Type} (table : List (List String × Value)) :
    Decidable (ClosedUnderMirror table) :=
  inferInstanceAs (Decidable (∀ _ ∈ table, ∀ _ ∈ _, _ ∈ _))

/-- What is looked up in such a table is found as well if it is mirrored. -/
theorem ClosedUnderMirror.find?_eq {Value : Type} {table : List (List String × Value)}
    (closed : ClosedUnderMirror table) (test behind : List Char → Bool)
    (mirrors : ∀ text, behind (mirrored text) = test text) :
    (table.find? fun (texts, _) => texts.any fun text => behind text.toList) =
      table.find? fun (texts, _) => texts.any fun text => test text.toList := by
  have rows : ∀ row ∈ table, (row.1.any fun text => behind text.toList) =
      row.1.any fun text => test text.toList := by
    intro row listed
    have shown (first second : List Char → Bool)
        (same : ∀ text, second (mirrored text) = first text)
        (found : (row.1.any fun text => first text.toList) = true) :
        (row.1.any fun text => second text.toList) = true := by
      rcases List.any_eq_true.1 found with ⟨text, member, holds⟩
      rcases List.mem_map.1 (closed row listed text member) with ⟨other, otherMember, spelled⟩
      refine List.any_eq_true.2 ⟨other, otherMember, ?_⟩
      rw [spelled, same, holds]
    rw [Bool.eq_iff_iff]
    constructor
    · apply shown
      intro text
      rw [← mirrors, mirrored_mirrored]
    · exact shown test behind mirrors
  exact List.find?_congr rows

/-! ## What a mirrored connector says -/

theorem RelationshipKind.ofConnector_mirrored (connector : List Char) :
    ofConnector (mirrored connector) = ofConnector connector := by
  have closed : ClosedUnderMirror kindFragments := by decide
  have same := closed.find?_eq (fun fragment => occursIn fragment connector)
    (fun fragment => occursIn fragment (mirrored connector))
    fun fragment => occursIn_mirrored fragment connector
  rw [ofConnector, same]
  rfl

namespace CrowsFoot

/-- The first two characters are seen as the last two from behind. -/
theorem window_mirrored (connector : List Char) :
    window (mirrored connector) .left = mirrored (window connector .right) := by
  rw [window, window, mirrored, mirrored, List.take_reverse, List.length_map, List.map_drop]

theorem cardinality_left_mirrored (connector : List Char) :
    cardinality (mirrored connector) .left = cardinality connector .right := by
  have closed : ClosedUnderMirror markers := by decide
  have same := closed.find?_eq (fun text => text == window connector .right)
    (fun text => text == window (mirrored connector) .left) fun text => by
      rw [window_mirrored, Bool.eq_iff_iff, beq_iff_eq, beq_iff_eq, mirrored_inj]
  rw [cardinality, same]
  rfl

theorem cardinality_right_mirrored (connector : List Char) :
    cardinality (mirrored connector) .right = cardinality connector .left := by
  rw [← cardinality_left_mirrored, mirrored_mirrored]

end CrowsFoot

end DiagramGraph
