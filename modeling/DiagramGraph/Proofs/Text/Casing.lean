import DiagramGraph.Text.Casing
import DiagramGraph.Text.Word

/-!
# Case in ASCII texts

In a text of ASCII characters case is mapped character by character within ASCII.
Changing the case of such a text neither makes nor removes word characters, and
what was capitalised or folded before does not show after capitalising or folding
again. Capitals keep the order of the small letters, but the underscore stands
between the two.
-/

namespace DiagramGraph.Text

/-! ## Single characters -/

/-- What holds of the first code points holds of every ASCII character. -/
theorem forall_ascii {P : Char → Prop} (checked : ∀ code < 0x80, P (Char.ofNat code))
    {char : Char} (ascii : char.toNat < 0x80) : P char := by
  have found := checked char.toNat ascii
  rwa [Char.ofNat_toNat] at found

/-- How the two cases of a character are related. -/
structure CaseLaws (char : Char) : Prop where
  upper_word : isAsciiWord char.toUpper = isAsciiWord char
  lower_word : isAsciiWord char.toLower = isAsciiWord char
  lower_upper : char.toUpper.toLower = char.toLower
  lower_lower : char.toLower.toLower = char.toLower
  upper_lower : char.toLower.toUpper = char.toUpper
  lower_ascii : char.toLower.toNat < 0x80

theorem caseLaws {char : Char} (ascii : char.toNat < 0x80) : CaseLaws char where
  upper_word := forall_ascii (P := fun c => isAsciiWord c.toUpper = isAsciiWord c) (by decide) ascii
  lower_word := forall_ascii (P := fun c => isAsciiWord c.toLower = isAsciiWord c) (by decide) ascii
  lower_upper := forall_ascii (P := fun c => c.toUpper.toLower = c.toLower) (by decide) ascii
  lower_lower := forall_ascii (P := fun c => c.toLower.toLower = c.toLower) (by decide) ascii
  upper_lower := forall_ascii (P := fun c => c.toLower.toUpper = c.toUpper) (by decide) ascii
  lower_ascii := forall_ascii (P := fun c => c.toLower.toNat < 0x80) (by decide) ascii

theorem toNat_lt_of_isAsciiWord {char : Char} (word : isAsciiWord char = true) :
    char.toNat < 0x80 := by
  rw [isAsciiWord, Bool.or_eq_true, beq_iff_eq] at word
  rcases word with alphanumeric | rfl
  · exact toNat_lt_of_isAlphanum alphanumeric
  · decide

/-! ## The order of characters -/

theorem toNat_of_isLower {char : Char} (small : char.isLower = true) :
    97 ≤ char.toNat ∧ char.toNat ≤ 122 := by
  have bounds := Bool.and_eq_true_iff.1 small
  exact ⟨of_decide_eq_true bounds.1, of_decide_eq_true bounds.2⟩

/-- A capital letter stands 32 places before the small one. -/
theorem toNat_toUpper_of_isLower {char : Char} (small : char.isLower = true) :
    char.toUpper.toNat + 32 = char.toNat := by
  have range := toNat_of_isLower small
  exact forall_ascii (P := fun c => c.isLower = true → c.toUpper.toNat + 32 = c.toNat) (by decide)
    (by omega) small

theorem toUpper_of_isLower_eq_false {char : Char} (other : char.isLower = false) :
    char.toUpper = char := by
  apply dif_neg
  rintro ⟨least, most⟩
  have small : char.isLower = true :=
    Bool.and_eq_true_iff.2 ⟨decide_eq_true least, decide_eq_true most⟩
  rw [small] at other
  contradiction

/-- Apart from small letters only the underscore and the digits are word
characters in lower case. -/
theorem eq_or_le_of_isLower_eq_false {char : Char} (word : isAsciiWord char = true)
    (folded : char.toLower = char) (other : char.isLower = false) :
    char = '_' ∨ char.toNat ≤ 57 :=
  forall_ascii
    (P := fun c => isAsciiWord c = true → c.toLower = c → c.isLower = false →
      c = '_' ∨ c.toNat ≤ 57)
    (by decide) (toNat_lt_of_isAsciiWord word) word folded other

theorem lt_iff_toNat_lt {first second : Char} : first < second ↔ first.toNat < second.toNat :=
  Iff.rfl

/-- A capital letter stands before the underscore, a small one behind it. -/
theorem underscore_between {char : Char} (small : char.isLower = true) :
    char.toUpper < '_' ∧ '_' < char := by
  have range := toNat_of_isLower small
  have capital := toNat_toUpper_of_isLower small
  have underscore : '_'.toNat = 95 := rfl
  rw [lt_iff_toNat_lt, lt_iff_toNat_lt, underscore]
  omega

/-- Capitals stand in the order of the lower-case word characters, unless the
first of two is the underscore and the second a letter. -/
theorem toUpper_lt_toUpper {first second : Char} (firstWord : isAsciiWord first = true)
    (firstFolded : first.toLower = first) (secondWord : isAsciiWord second = true)
    (secondFolded : second.toLower = second) (below : first < second)
    (straight : ¬ (first = '_' ∧ second.isLower = true)) : first.toUpper < second.toUpper := by
  rw [lt_iff_toNat_lt] at below ⊢
  cases firstCase : first.isLower with
  | true =>
      have firstRange := toNat_of_isLower firstCase
      have firstCapital := toNat_toUpper_of_isLower firstCase
      cases secondCase : second.isLower with
      | true =>
          have secondCapital := toNat_toUpper_of_isLower secondCase
          omega
      | false =>
          rcases eq_or_le_of_isLower_eq_false secondWord secondFolded secondCase with rfl | digit
          · have underscore : '_'.toNat = 95 := rfl
            omega
          · omega
  | false =>
      rw [toUpper_of_isLower_eq_false firstCase]
      cases secondCase : second.isLower with
      | true =>
          have secondRange := toNat_of_isLower secondCase
          have secondCapital := toNat_toUpper_of_isLower secondCase
          rcases eq_or_le_of_isLower_eq_false firstWord firstFolded firstCase with same | digit
          · exact absurd ⟨same, secondCase⟩ straight
          · omega
      | false => rwa [toUpper_of_isLower_eq_false secondCase]

/-! ## Texts -/

/-- All characters of a text are ASCII. -/
def IsAscii (text : List Char) : Prop :=
  ∀ char ∈ text, char.toNat < 0x80

theorem isAscii_of_isAsciiWord {text : List Char} (word : text.all isAsciiWord = true) :
    IsAscii text := fun char member =>
  toNat_lt_of_isAsciiWord (List.all_eq_true.1 word char member)

theorem asciiLower_cons (first : Char) (rest : List Char) :
    asciiLower (first :: rest) = first.toLower :: asciiLower rest :=
  rfl

section Ascii

variable {text : List Char} (ascii : IsAscii text)

include ascii

theorem isAscii_asciiLower : IsAscii (asciiLower text) := by
  intro char member
  rcases List.mem_map.1 member with ⟨original, listed, rfl⟩
  exact (caseLaws (ascii original listed)).lower_ascii

theorem asciiLower_asciiLower : asciiLower (asciiLower text) = asciiLower text := by
  rw [asciiLower, asciiLower, List.map_map]
  exact List.map_congr_left fun char member => (caseLaws (ascii char member)).lower_lower

theorem all_isAsciiWord_asciiLower :
    (asciiLower text).all isAsciiWord = text.all isAsciiWord := by
  rw [asciiLower, List.all_map, Bool.eq_iff_iff, List.all_eq_true, List.all_eq_true]
  apply forall₂_congr
  intro char member
  rw [Function.comp_apply, (caseLaws (ascii char member)).lower_word]

theorem flatMap_lowerChar : text.flatMap lowerChar = asciiLower text := by
  induction text with
  | nil => rfl
  | cons char text ih =>
      have parts := List.forall_mem_cons.1 ascii
      rw [List.flatMap_cons, ih parts.2, lowerChar, if_pos parts.1]
      rfl

end Ascii

section Capitalized

variable {first : Char} {rest : List Char} (ascii : IsAscii (first :: rest))

include ascii

/-- In an ASCII text only the first character becomes upper-case. -/
theorem capitalize_cons : capitalize (first :: rest) = first.toUpper :: asciiLower rest := by
  have parts := List.forall_mem_cons.1 ascii
  rw [capitalize, flatMap_lowerChar parts.2, upperChar, if_pos parts.1]
  rfl

/-- Folding hides whether a text was capitalised. -/
theorem asciiLower_capitalize_cons :
    asciiLower (capitalize (first :: rest)) = asciiLower (first :: rest) := by
  have parts := List.forall_mem_cons.1 ascii
  rw [capitalize_cons ascii, asciiLower_cons, asciiLower_cons, asciiLower_asciiLower parts.2,
    (caseLaws parts.1).lower_upper]

/-- Capitalising hides whether a text was folded. -/
theorem capitalize_asciiLower_cons :
    capitalize (asciiLower (first :: rest)) = capitalize (first :: rest) := by
  have parts := List.forall_mem_cons.1 ascii
  have folded := isAscii_asciiLower ascii
  rw [asciiLower_cons] at folded ⊢
  rw [capitalize_cons folded, capitalize_cons ascii, asciiLower_asciiLower parts.2,
    (caseLaws parts.1).upper_lower]

/-- Capitalising neither makes nor removes word characters. -/
theorem all_isAsciiWord_capitalize_cons :
    (capitalize (first :: rest)).all isAsciiWord = (first :: rest).all isAsciiWord := by
  have parts := List.forall_mem_cons.1 ascii
  rw [capitalize_cons ascii, List.all_cons, List.all_cons, (caseLaws parts.1).upper_word,
    all_isAsciiWord_asciiLower parts.2]

end Capitalized

end DiagramGraph.Text
