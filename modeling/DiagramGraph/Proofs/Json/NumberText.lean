import DiagramGraph.Json.Token
import DiagramGraph.Proofs.Text.Run

/-!
# Number literals read back

A number literal consists of a sign, a whole part, a fraction and an exponent,
all but the whole part optional. Parts that are written one behind the other
are read back as the same parts, provided that the text behind the literal
cannot continue it. An integer of 64 bits is written as such a literal and
reads back as itself.
-/

namespace DiagramGraph.Json

/-! ## Literals from parts -/

/-- A fraction as it is written, with the point in front of it. -/
def fractionText : List Char → List Char
  | [] => []
  | first :: rest => '.' :: first :: rest

/-- The sign of an exponent as it is written. -/
def powerSignText (power : Int) : Char :=
  if power < 0 then '-' else '+'

/-- An exponent as it is written, always with its sign. -/
def powerText : Option Int → List Char
  | none => []
  | some power => 'e' :: powerSignText power :: Nat.toDigits 10 power.natAbs

/-- The sign of a number as it is written. -/
def signText (negative : Bool) : List Char :=
  if negative then ['-'] else []

/-- The literal that consists of certain parts. -/
def NumberParts.text (parts : NumberParts) : List Char :=
  signText parts.negative ++ parts.whole ++ fractionText parts.fraction ++ powerText parts.power

/-- A whole part: digits, the first of which is a zero only if it is alone. -/
structure IsWhole (digits : List Char) : Prop where
  nonempty : digits ≠ []
  digit : ∀ char ∈ digits, char.isDigit = true
  leading : digits.head? = some '0' → digits = ['0']

/-- Parts that make a literal. -/
structure NumberParts.Literal (parts : NumberParts) : Prop where
  whole : IsWhole parts.whole
  fraction : ∀ char ∈ parts.fraction, char.isDigit = true

/-- Whether a text begins like a further piece of a number in front of it. -/
def continuesNumber : List Char → Bool
  | char :: _ => char.isDigit || char == '.' || char == 'e' || char == 'E'
  | [] => false

/-! ## Reading the parts -/

/-- A run of digits is read up to the first other character. -/
theorem digits?_append {digits rest : List Char} (nonempty : digits ≠ [])
    (digit : ∀ char ∈ digits, char.isDigit = true)
    (stop : ∀ char ∈ rest.head?, char.isDigit = false) :
    digits? (digits ++ rest) = some (digits, rest) := by
  obtain ⟨first, more, rfl⟩ := List.exists_cons_of_ne_nil nonempty
  unfold digits?
  rw [Text.takeWhile_run_append digit stop, Text.dropWhile_run_append digit stop]

theorem whole?_append {digits rest : List Char} (whole : IsWhole digits)
    (stop : ∀ char ∈ rest.head?, char.isDigit = false) :
    whole? (digits ++ rest) = some (digits, rest) := by
  obtain ⟨first, more, rfl⟩ := List.exists_cons_of_ne_nil whole.nonempty
  by_cases zero : first = '0'
  · subst zero
    have alone := whole.leading rfl
    rw [alone]
    rfl
  · unfold whole?
    split
    · next shape =>
        simp only [List.cons_append, List.cons.injEq] at shape
        exact absurd shape.1 zero
    · exact digits?_append whole.nonempty whole.digit stop

theorem fraction?_append {fraction rest : List Char}
    (digit : ∀ char ∈ fraction, char.isDigit = true)
    (stop : ∀ char ∈ rest.head?, char.isDigit = false ∧ char ≠ '.') :
    fraction? (fractionText fraction ++ rest) = some (fraction, rest) := by
  cases fraction with
  | nil =>
      unfold fraction?
      split
      · next shape =>
          have starts : rest = '.' :: _ := shape
          have point := (stop '.' (by simp [starts])).2
          exact absurd rfl point
      · rfl
  | cons first more =>
      exact digits?_append (by simp) digit fun char starts => (stop char starts).1

/-- The written sign of an exponent is read back. -/
theorem powerSign_powerSignText (power : Int) (rest : List Char) :
    powerSign (powerSignText power :: rest) = (decide (power < 0), rest) := by
  unfold powerSignText
  by_cases negative : power < 0 <;> simp [negative, powerSign]

/-- An integer is its magnitude with its sign. -/
theorem signed_natAbs (value : Int) :
    (if value < 0 then -(value.natAbs : Int) else value.natAbs) = value := by
  split
  · omega
  · omega

theorem power?_append {rest : List Char} (power : Option Int)
    (stop : continuesNumber rest = false) :
    power? (powerText power ++ rest) = some (power, rest) := by
  cases power with
  | none =>
      unfold power?
      split
      · next shape => simp_all [powerText, continuesNumber]
      · next shape => simp_all [powerText, continuesNumber]
      · rfl
  | some power =>
      have digits :
          digits? (Nat.toDigits 10 power.natAbs ++ rest) =
            some (Nat.toDigits 10 power.natAbs, rest) := by
        apply digits?_append Nat.toDigits_ne_nil
        · intro char member
          exact Nat.isDigit_of_mem_toDigits (by decide) (by decide) member
        · intro char starts
          cases rest with
          | nil => simp at starts
          | cons => simp_all [continuesNumber]
      simp only [power?, powerText, List.cons_append, powerDigits?, powerSign_powerSignText, digits,
        Option.map_some, decide_eq_true_eq, Nat.ofDigitChars_ten_toDigits, signed_natAbs]

theorem numberSign_signText {rest : List Char} (negative : Bool)
    (stop : ∀ char ∈ rest.head?, char ≠ '-') :
    numberSign (signText negative ++ rest) = (negative, rest) := by
  cases negative with
  | true => rfl
  | false =>
      unfold numberSign
      split
      · next shape =>
          have starts : rest = '-' :: _ := shape
          have other := stop '-' (by simp [starts])
          exact absurd rfl other
      · rfl

/-! ## Reading a literal -/

/-- What stands behind the whole part does not continue its digits. -/
theorem head_fractionText_append {rest : List Char} (fraction : List Char) (power : Option Int)
    (stop : continuesNumber rest = false) :
    ∀ char ∈ (fractionText fraction ++ (powerText power ++ rest)).head?, char.isDigit = false := by
  cases fraction with
  | cons first more => simp [fractionText]
  | nil =>
      cases power with
      | some power => simp [fractionText, powerText]
      | none =>
          cases rest with
          | nil => simp [fractionText, powerText]
          | cons char rest => simp_all [fractionText, powerText, continuesNumber]

theorem head_powerText_append {rest : List Char} (power : Option Int)
    (stop : continuesNumber rest = false) :
    ∀ char ∈ (powerText power ++ rest).head?, char.isDigit = false ∧ char ≠ '.' := by
  cases power with
  | some power => simp [powerText]
  | none =>
      cases rest with
      | nil => simp [powerText]
      | cons char rest => simp_all [powerText, continuesNumber]

/-- The parts of a literal are read back. -/
theorem numberParts?_text {parts : NumberParts} {rest : List Char} (literal : parts.Literal)
    (stop : continuesNumber rest = false) :
    numberParts? (parts.text ++ rest) = some (parts, rest) := by
  obtain ⟨first, more, shape⟩ := List.exists_cons_of_ne_nil literal.whole.nonempty
  have noSign : first ≠ '-' := by
    rintro rfl
    have digit := literal.whole.digit '-' (by simp [shape])
    simp at digit
  have text :
      parts.text ++ rest =
        signText parts.negative ++
          (parts.whole ++ (fractionText parts.fraction ++ (powerText parts.power ++ rest))) := by
    simp [NumberParts.text]
  have sign :
      numberSign (signText parts.negative ++
          (parts.whole ++ (fractionText parts.fraction ++ (powerText parts.power ++ rest)))) =
        (parts.negative,
          parts.whole ++ (fractionText parts.fraction ++ (powerText parts.power ++ rest))) :=
    numberSign_signText parts.negative (by simp [shape, noSign])
  have whole := whole?_append literal.whole
    (head_fractionText_append parts.fraction parts.power stop)
  have fraction := fraction?_append literal.fraction (head_powerText_append parts.power stop)
  have power := power?_append parts.power stop
  simp [numberParts?, text, sign, whole, fraction, power]

/-- A literal is read as the number that its parts stand for. -/
theorem number?_text {parts : NumberParts} {number : Number} {rest : List Char}
    (literal : parts.Literal) (value : parts.number? = some number)
    (stop : continuesNumber rest = false) :
    number? (parts.text ++ rest) = some (number, rest) := by
  simp [number?, numberParts?_text literal stop, value]

/-! ## Integers -/

theorem digitChar_ne_zero : ∀ value < 10, 0 < value → value.digitChar ≠ '0' := by
  decide

/-- The digits of a positive number do not begin with a zero. -/
theorem head_toDigits_ne_zero {value : Nat} (positive : 0 < value) :
    (Nat.toDigits 10 value).head? ≠ some '0' := by
  induction value using Nat.strongRecOn with
  | ind value ih =>
      by_cases small : value < 10
      · rw [Nat.toDigits_of_lt_base small]
        simpa using digitChar_ne_zero value small positive
      · have shorter := ih (value / 10) (by omega) (by omega)
        rw [Nat.toDigits_of_base_le (by decide) (by omega), List.head?_append]
        obtain ⟨first, more, shape⟩ :=
          List.exists_cons_of_ne_nil (Nat.toDigits_ne_nil (b := 10) (n := value / 10))
        rw [shape] at shorter ⊢
        exact shorter

theorem isWhole_toDigits (value : Nat) : IsWhole (Nat.toDigits 10 value) where
  nonempty := Nat.toDigits_ne_nil
  digit := fun _ member => Nat.isDigit_of_mem_toDigits (by decide) (by decide) member
  leading := by
    intro zero
    by_cases positive : 0 < value
    · exact absurd zero (head_toDigits_ne_zero positive)
    · have : value = 0 := by omega
      subst this
      rfl

/-- The parts of an integer. -/
def integerParts (value : Int) : NumberParts :=
  ⟨decide (value < 0), Nat.toDigits 10 value.natAbs, [], none⟩

theorem text_integerParts (value : Int) : (integerParts value).text = integerText value := by
  cases value with
  | ofNat value =>
      simp [NumberParts.text, integerParts, integerText, signText, fractionText, powerText]
  | negSucc value =>
      simp [NumberParts.text, integerParts, integerText, signText, fractionText, powerText]

theorem literal_integerParts (value : Int) : (integerParts value).Literal where
  whole := isWhole_toDigits value.natAbs
  fraction := by simp [integerParts]

/-- The integers that are kept exactly: those of 64 bits, with or without
sign. -/
def ExactInteger (value : Int) : Prop :=
  -0x8000000000000000 ≤ value ∧ value < 0x10000000000000000

theorem number?_integerParts {value : Int} (exact : ExactInteger value) :
    (integerParts value).number? = some (.integer value) := by
  obtain ⟨least, greatest⟩ := exact
  have fits : fitsInteger (decide (value < 0)) value.natAbs = true := by
    unfold fitsInteger wordBound
    by_cases negative : value < 0
    · simp only [negative, decide_true, if_true, Bool.and_eq_true, decide_eq_true_eq]
      omega
    · simp only [negative, decide_false, Bool.false_eq_true, if_false, decide_eq_true_eq]
      omega
  simp only [NumberParts.number?, integerParts, List.isEmpty_nil, Option.isNone_none, Bool.true_and,
    Nat.ofDigitChars_ten_toDigits, fits, if_true, decide_eq_true_eq, signed_natAbs]

/-- A 64-bit integer reads back as itself. -/
theorem number?_integerText {value : Int} {rest : List Char} (exact : ExactInteger value)
    (stop : continuesNumber rest = false) :
    number? (integerText value ++ rest) = some (.integer value, rest) := by
  rw [← text_integerParts]
  exact number?_text (literal_integerParts value) (number?_integerParts exact) stop

end DiagramGraph.Json
