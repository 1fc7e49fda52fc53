import DiagramGraph.Proofs.Decimal.Scale
import DiagramGraph.Proofs.Decimal.Shortest
import DiagramGraph.Proofs.Json.Shape

/-!
# Doubles are legible

Whether a double is written plainly or in scientific notation, its text is a
number literal whose digits and power make up the decimal that was found for
it. The decimal is close enough to the double that reading it back cannot leave
the range of the doubles.
-/

namespace DiagramGraph.Json

open DiagramGraph.Decimal DiagramGraph.Decimal.Magnitude

/-! ## Digits -/

theorem ofDigitChars_lt_pow {digits : List Char} (digit : ∀ char ∈ digits, char.isDigit = true) :
    Nat.ofDigitChars 10 digits 0 < 10 ^ digits.length := by
  induction digits with
  | nil => simp
  | cons char digits ih =>
      have rest := ih fun other member => digit other (by simp [member])
      have small : char.toNat - '0'.toNat < 10 := by
        have inside := digit char (by simp)
        simp only [Char.isDigit, Bool.and_eq_true, decide_eq_true_eq, UInt32.le_iff_toNat_le]
          at inside
        have upper : char.toNat ≤ 57 := inside.2
        have zero : '0'.toNat = 48 := rfl
        omega
      rw [Nat.ofDigitChars_cons, Nat.ofDigitChars_eq_ofDigitChars_zero, List.length_cons,
        Nat.pow_succ]
      generalize 10 ^ digits.length = scale at *
      nlinarith

theorem le_ofDigitChars (digits : List Char) (start : Nat) :
    start ≤ Nat.ofDigitChars 10 digits start := by
  rw [Nat.ofDigitChars_eq_ofDigitChars_zero]
  have scale : 0 < 10 ^ digits.length := Nat.pow_pos (by decide)
  nlinarith

/-- Digits that do not reach the bound are kept. -/
theorem significand_eq {digits : List Char} {start : Nat}
    (small : Nat.ofDigitChars 10 digits start < wordBound) :
    significand start digits = (Nat.ofDigitChars 10 digits start, 0) := by
  induction digits generalizing start with
  | nil => simp [significand]
  | cons char digits ih =>
      rw [Nat.ofDigitChars_cons, Nat.mul_comm] at small ⊢
      have longer := lt_of_le_of_lt (le_ofDigitChars digits _) small
      rw [significand, if_pos longer]
      exact ih small

theorem dropTrailingZeros_spec (digits : List Char) :
    ∃ count, digits = dropTrailingZeros digits ++ List.replicate count '0' := by
  cases digits with
  | nil => exact ⟨0, rfl⟩
  | cons first rest =>
      refine ⟨(rest.reverse.takeWhile (· == '0')).length, ?_⟩
      have zeros : rest.reverse.takeWhile (· == '0') =
          List.replicate (rest.reverse.takeWhile (· == '0')).length '0' := by
        apply List.eq_replicate_of_mem
        intro char member
        simpa using List.all_eq_true.1 List.all_takeWhile char member
      rw [dropTrailingZeros, List.cons_append, ← List.reverse_replicate, ← zeros,
        ← List.reverse_append, List.takeWhile_append_dropWhile, List.reverse_reverse]

/-- What a number is read as whose digits are all kept. -/
theorem magnitude?_eq {parts : NumberParts}
    (small : Nat.ofDigitChars 10 (parts.whole ++ parts.fraction) 0 < wordBound) :
    parts.magnitude? =
      (ofNat? (Nat.ofDigitChars 10 (parts.whole ++ parts.fraction) 0)).bind fun magnitude =>
        magnitude.scale? (parts.power.getD 0 - parts.fraction.length) := by
  rw [Nat.ofDigitChars_append] at small ⊢
  have whole := significand_eq (lt_of_le_of_lt (le_ofDigitChars _ _) small)
  have fraction := significand_eq small
  rw [NumberParts.magnitude?, whole]
  simp only [fraction]
  congr 1
  funext magnitude
  congr 1
  omega

/-! ## Parts that can be read -/

/-- Parts whose digits make up seventeen digits of a number within the inner
limit. -/
structure NumberParts.Moderate (parts : NumberParts) : Prop where
  literal : parts.Literal
  fractional : parts.fraction ≠ [] ∨ parts.power.isSome = true
  positive : 0 < Nat.ofDigitChars 10 (parts.whole ++ parts.fraction) 0
  few : Nat.ofDigitChars 10 (parts.whole ++ parts.fraction) 0 ≤ 10 ^ 17
  bounded : (Nat.ofDigitChars 10 (parts.whole ++ parts.fraction) 0 : ℚ) *
    10 ^ (parts.power.getD 0 - parts.fraction.length) ≤ innerLimit

/-- A number with a fraction or an exponent is a double. -/
theorem number?_eq_magnitude? {parts : NumberParts}
    (fractional : parts.fraction ≠ [] ∨ parts.power.isSome = true) :
    parts.number? = parts.magnitude?.map (Number.double parts.negative) := by
  have inexact : (parts.fraction.isEmpty && parts.power.isNone &&
      fitsInteger parts.negative (Nat.ofDigitChars 10 parts.whole 0)) = false := by
    rcases fractional with fraction | power
    · simp [fraction]
    · cases shape : parts.power with
      | none => simp [shape] at power
      | some value => simp
  rw [NumberParts.number?]
  simp only [inexact, Bool.false_eq_true, if_false]

theorem NumberParts.Moderate.exists_number? {parts : NumberParts} (moderate : parts.Moderate) :
    ∃ number, parts.number? = some number := by
  obtain ⟨magnitude, scaled⟩ :=
    exists_scale? moderate.positive moderate.few moderate.bounded
  have small : Nat.ofDigitChars 10 (parts.whole ++ parts.fraction) 0 < wordBound :=
    lt_of_le_of_lt moderate.few (by decide)
  refine ⟨.double parts.negative magnitude, ?_⟩
  rw [number?_eq_magnitude? moderate.fractional, magnitude?_eq small, scaled]
  rfl

/-- A number whose text has parts that stand for a number is legible. -/
theorem legible_of_parts {number read : Number} (parts : NumberParts) (literal : parts.Literal)
    (value : parts.number? = some read) (text : parts.text = number.text) : number.Legible := by
  have settled : number.settled = read := by
    have alone : number? (parts.text ++ []) = some (read, []) := number?_text literal value rfl
    rw [List.append_nil, text] at alone
    simp [Number.settled, alone]
  intro rest stop
  rw [settled, ← text]
  exact number?_text literal value stop

/-! ## Decimals as they are written -/

/-- A decimal of at most seventeen digits within the inner limit. -/
structure ModerateDecimal (digits : List Char) (exponent : Int) : Prop where
  nonempty : digits ≠ []
  digit : ∀ char ∈ digits, char.isDigit = true
  leading : digits.head? ≠ some '0'
  positive : 0 < Nat.ofDigitChars 10 digits 0
  few : Nat.ofDigitChars 10 digits 0 ≤ 10 ^ 17
  bounded : (Nat.ofDigitChars 10 digits 0 : ℚ) * 10 ^ (exponent + 1 - digits.length) ≤ innerLimit

theorem isDigit_of_mem_replicate {count : Nat} :
    ∀ char ∈ List.replicate count '0', char.isDigit = true := by
  intro char member
  rw [List.eq_of_mem_replicate member]
  rfl

theorem fractionText_of_ne_nil {fraction : List Char} (nonempty : fraction ≠ []) :
    fractionText fraction = '.' :: fraction := by
  obtain ⟨first, rest, rfl⟩ := List.exists_cons_of_ne_nil nonempty
  rfl

theorem isWhole_zero : IsWhole ['0'] where
  nonempty := by decide
  digit := List.all_eq_true.1 rfl
  leading := fun _ => rfl

theorem ofDigitChars_zeros_append (count : Nat) (digits : List Char) :
    Nat.ofDigitChars 10 (List.replicate count '0' ++ digits) 0 = Nat.ofDigitChars 10 digits 0 := by
  rw [Nat.ofDigitChars_append, Nat.ofDigitChars_replicate_zero, Nat.mul_zero]

theorem ofDigitChars_append_zeros (digits : List Char) (count : Nat) :
    Nat.ofDigitChars 10 (digits ++ List.replicate count '0') 0 =
      Nat.ofDigitChars 10 digits 0 * 10 ^ count := by
  rw [Nat.ofDigitChars_append, Nat.ofDigitChars_replicate_zero, Nat.mul_comm]

section Written

variable {digits : List Char} {exponent : Int} (moderate : ModerateDecimal digits exponent)

include moderate in
/-- Zeros behind the digits are made up for by the power. -/
theorem ModerateDecimal.parts (zeros : Nat) {parts : NumberParts} (literal : parts.Literal)
    (fractional : parts.fraction ≠ [] ∨ parts.power.isSome = true)
    (value : Nat.ofDigitChars 10 (parts.whole ++ parts.fraction) 0 =
      Nat.ofDigitChars 10 digits 0 * 10 ^ zeros)
    (few : Nat.ofDigitChars 10 digits 0 * 10 ^ zeros ≤ 10 ^ 17)
    (power : parts.power.getD 0 - parts.fraction.length =
      exponent + 1 - digits.length - zeros) : parts.Moderate where
  literal := literal
  fractional := fractional
  positive := by
    rw [value]
    exact Nat.mul_pos moderate.positive (Nat.pow_pos (by decide))
  few := by rwa [value]
  bounded := by
    rw [value, power, zpow_sub₀ (by norm_num), zpow_natCast]
    push_cast
    rw [mul_assoc, mul_div_cancel₀ _ (by positivity)]
    exact moderate.bounded

variable (negative : Bool)

include moderate in
/-- Below one, zeros are written in front of the digits. -/
theorem exists_parts_of_plain_neg (small : exponent < 0) :
    ∃ parts : NumberParts, parts.Moderate ∧
      parts.text = signText negative ++ plainText digits exponent := by
  have nonempty (count : Nat) : List.replicate count '0' ++ digits ≠ [] := by
    simp [moderate.nonempty]
  refine ⟨⟨negative, ['0'], List.replicate ((-exponent).toNat - 1) '0' ++ digits, none⟩, ?_, ?_⟩
  · apply moderate.parts 0 ⟨isWhole_zero, ?_⟩ (.inl (nonempty _))
    · rw [List.singleton_append, ← List.cons_append, ← List.replicate_succ,
        ofDigitChars_zeros_append, Nat.pow_zero, Nat.mul_one]
    · rw [Nat.pow_zero, Nat.mul_one]
      exact moderate.few
    · simp only [Option.getD_none, List.length_append, List.length_replicate]
      omega
    · intro char member
      rcases List.mem_append.1 member with zero | digit
      · exact isDigit_of_mem_replicate char zero
      · exact moderate.digit char digit
  · simp only [NumberParts.text, fractionText_of_ne_nil (nonempty _), plainText, if_pos small]
    simp [powerText]

include moderate in
/-- Digits at the start of a decimal make a whole part. -/
theorem isWhole_of_head? {whole : List Char} (nonempty : whole ≠ [])
    (digit : ∀ char ∈ whole, char.isDigit = true) (same : whole.head? = digits.head?) :
    IsWhole whole where
  nonempty := nonempty
  digit := digit
  leading := fun zero => absurd (same ▸ zero) moderate.leading

include moderate in
/-- Zeros are written for the digits that are missing in front of the point, and
one for the fraction. -/
theorem exists_parts_of_plain_short {wide : Nat} (plain : wide ≤ greatestPlainExponent)
    (power : exponent = wide) (short : digits.length ≤ wide + 1) :
    ∃ parts : NumberParts, parts.Moderate ∧
      parts.text = signText negative ++ plainText digits exponent := by
  have padded (count : Nat) : ∀ char ∈ digits ++ List.replicate count '0',
      char.isDigit = true := by
    intro char member
    rcases List.mem_append.1 member with digit | zero
    · exact moderate.digit char digit
    · exact isDigit_of_mem_replicate char zero
  have total : digits ++ List.replicate (wide + 1 - digits.length) '0' ++ ['0'] =
      digits ++ List.replicate (wide + 1 - digits.length + 1) '0' := by
    rw [List.append_assoc, ← List.replicate_succ']
  refine ⟨⟨negative, digits ++ List.replicate (wide + 1 - digits.length) '0', ['0'], none⟩,
    ?_, ?_⟩
  · apply moderate.parts (wide + 1 - digits.length + 1) ⟨?_, by simp⟩ (.inl (by simp))
    · rw [total, ofDigitChars_append_zeros]
    · rw [← ofDigitChars_append_zeros]
      have bound := ofDigitChars_lt_pow (padded (wide + 1 - digits.length + 1))
      have most : 10 ^ (digits ++ List.replicate (wide + 1 - digits.length + 1) '0').length ≤
          10 ^ 17 := by
        apply Nat.pow_le_pow_right (by decide)
        unfold greatestPlainExponent at plain
        rw [List.length_append, List.length_replicate]
        omega
      omega
    · simp only [Option.getD_none, List.length_singleton]
      omega
    · apply isWhole_of_head? moderate (by simp [moderate.nonempty]) (padded _)
      obtain ⟨first, rest, rfl⟩ := List.exists_cons_of_ne_nil moderate.nonempty
      rfl
  · have notSmall : ¬ exponent < 0 := by omega
    have known : exponent.toNat = wide := by omega
    simp only [NumberParts.text, fractionText, powerText, plainText, if_neg notSmall, known,
      List.drop_of_length_le short, List.take_of_length_le short]
    simp

include moderate in
/-- Digits that reach beyond the point are split there. -/
theorem exists_parts_of_plain_long {wide : Nat} (power : exponent = wide)
    (long : wide + 1 < digits.length) :
    ∃ parts : NumberParts, parts.Moderate ∧
      parts.text = signText negative ++ plainText digits exponent := by
  have split : digits.take (wide + 1) ++ digits.drop (wide + 1) = digits :=
    List.take_append_drop _ _
  have further : digits.drop (wide + 1) ≠ [] := by
    simpa using long
  have whole : IsWhole (digits.take (wide + 1)) := by
    apply isWhole_of_head? moderate (by simp [moderate.nonempty])
    · exact fun char member => moderate.digit char (List.mem_of_mem_take member)
    · obtain ⟨first, rest, rfl⟩ := List.exists_cons_of_ne_nil moderate.nonempty
      rfl
  refine ⟨⟨negative, digits.take (wide + 1), digits.drop (wide + 1), none⟩, ?_, ?_⟩
  · apply moderate.parts 0 ⟨whole, ?_⟩ (.inl further)
    · rw [split, Nat.pow_zero, Nat.mul_one]
    · rw [Nat.pow_zero, Nat.mul_one]
      exact moderate.few
    · simp only [Option.getD_none, List.length_drop]
      omega
    · exact fun char member => moderate.digit char (List.mem_of_mem_drop member)
  · have notSmall : ¬ exponent < 0 := by omega
    have known : exponent.toNat = wide := by omega
    have none : wide + 1 - digits.length = 0 := by omega
    obtain ⟨first, rest, shape⟩ := List.exists_cons_of_ne_nil further
    simp only [NumberParts.text, fractionText, powerText, plainText, if_neg notSmall, known,
      shape, none]
    simp

include moderate in
theorem exists_parts_of_plain_nonneg (large : 0 ≤ exponent)
    (plain : exponent ≤ greatestPlainExponent) :
    ∃ parts : NumberParts, parts.Moderate ∧
      parts.text = signText negative ++ plainText digits exponent := by
  obtain ⟨wide, power⟩ := Int.eq_ofNat_of_zero_le large
  by_cases short : digits.length ≤ wide + 1
  · exact exists_parts_of_plain_short moderate negative (power ▸ plain) power short
  · exact exists_parts_of_plain_long moderate negative power (Nat.not_le.1 short)

include moderate in
/-- In scientific notation the power is written behind the digits. -/
theorem exists_parts_of_scientific :
    ∃ parts : NumberParts, parts.Moderate ∧
      parts.text = signText negative ++ scientificText digits exponent := by
  obtain ⟨first, rest, rfl⟩ := List.exists_cons_of_ne_nil moderate.nonempty
  refine ⟨⟨negative, [first], rest, some exponent⟩, ?_, ?_⟩
  · apply moderate.parts 0 ⟨?_, ?_⟩ (.inr rfl)
    · rw [List.singleton_append, Nat.pow_zero, Nat.mul_one]
    · rw [Nat.pow_zero, Nat.mul_one]
      exact moderate.few
    · simp only [Option.getD_some, List.length_cons]
      omega
    · apply isWhole_of_head? moderate (List.cons_ne_nil first []) ?_ rfl
      intro char member
      exact moderate.digit char (by simp [List.mem_singleton.1 member])
    · intro char member
      exact moderate.digit char (by simp [member])
  · cases rest with
    | nil => simp [NumberParts.text, fractionText, powerText, powerSignText, scientificText]
    | cons second more =>
        simp [NumberParts.text, fractionText, powerText, powerSignText, scientificText]

end Written

/-! ## The shortest digits -/

/-- The shortest digits of a double make a moderate decimal. -/
theorem moderateDecimal_shortest {magnitude : Magnitude} (finite : magnitude.Finite)
    (positive : 0 < magnitude.significand) (smaller : magnitude ≠ largest) :
    ModerateDecimal (shortest magnitude).digits (shortest magnitude).exponent := by
  obtain ⟨point, power, pointPositive, few, bounded, result⟩ :=
    shortest_spec positive finite.significand
  obtain ⟨zeros, split⟩ := dropTrailingZeros_spec (Nat.toDigits 10 point)
  obtain ⟨first, rest, digits⟩ :=
    List.exists_cons_of_ne_nil (Nat.toDigits_ne_nil (b := 10) (n := point))
  have value : Nat.ofDigitChars 10 (dropTrailingZeros (Nat.toDigits 10 point)) 0 * 10 ^ zeros =
      point := by
    rw [← ofDigitChars_append_zeros, ← split, Nat.ofDigitChars_ten_toDigits]
  have count := congrArg List.length split
  rw [List.length_append, List.length_replicate] at count
  have nonempty : 0 < (Nat.toDigits 10 point).length := Nat.length_toDigits_pos
  have scale : 0 < 10 ^ zeros := Nat.pow_pos (by decide)
  rw [result]
  exact
    { nonempty := by
        rw [digits]
        exact List.cons_ne_nil first _
      digit := by
        intro char member
        apply Nat.isDigit_of_mem_toDigits (b := 10) (n := point) (by decide) (by decide)
        rw [split]
        exact List.mem_append_left _ member
      leading := by
        have leading := head_toDigits_ne_zero pointPositive
        rw [digits] at leading ⊢
        exact leading
      positive := by
        apply Nat.pos_of_ne_zero
        intro zero
        rw [zero, Nat.zero_mul] at value
        omega
      few := by
        apply Nat.le_trans _ few
        calc
          Nat.ofDigitChars 10 (dropTrailingZeros (Nat.toDigits 10 point)) 0
              ≤ Nat.ofDigitChars 10 (dropTrailingZeros (Nat.toDigits 10 point)) 0 * 10 ^ zeros :=
                Nat.le_mul_of_pos_right _ scale
          _ = point := value
      bounded := by
        apply le_trans _ (value_add_half_le finite smaller)
        apply le_trans _ bounded
        apply le_of_eq
        have shift : power + ((Nat.toDigits 10 point).length - 1 : Nat) + 1 -
            (dropTrailingZeros (Nat.toDigits 10 point)).length = zeros + power := by
          omega
        rw [shift, zpow_add₀ (by norm_num), ← mul_assoc, zpow_natCast]
        congr 1
        exact_mod_cast value }

/-! ## Legible doubles -/

theorem text_double (negative : Bool) (magnitude : Magnitude) :
    (Number.double negative magnitude).text = signText negative ++ magnitudeText magnitude := by
  cases negative with
  | true => rfl
  | false => rfl

theorem legible_zero (negative : Bool) {magnitude : Magnitude}
    (zero : magnitude.significand = 0) : (Number.double negative magnitude).Legible := by
  have read : (⟨negative, ['0'], ['0'], none⟩ : NumberParts).magnitude? = some Magnitude.zero := by
    cases negative with
    | true => decide
    | false => decide
  have fraction : ∀ char ∈ ['0'], char.isDigit = true := List.all_eq_true.1 rfl
  apply legible_of_parts ⟨negative, ['0'], ['0'], none⟩ ⟨isWhole_zero, fraction⟩
  · rw [number?_eq_magnitude? (.inl (by simp)), read]
    rfl
  · rw [text_double, magnitudeText, if_pos zero]
    simp [NumberParts.text, fractionText, powerText]

theorem legible_largest (negative : Bool) : (Number.double negative largest).Legible := by
  have written : magnitudeText largest = "1.7976931348623157e+308".toList := by
    decide +kernel
  have read : (⟨negative, ['1'], "7976931348623157".toList, some 308⟩ : NumberParts).magnitude? =
      some largest := by
    cases negative with
    | true => decide +kernel
    | false => decide +kernel
  have whole : IsWhole ['1'] := ⟨by decide, List.all_eq_true.1 rfl, by decide⟩
  have fraction : ∀ char ∈ "7976931348623157".toList, char.isDigit = true :=
    List.all_eq_true.1 rfl
  apply legible_of_parts ⟨negative, ['1'], "7976931348623157".toList, some 308⟩ ⟨whole, fraction⟩
  · rw [number?_eq_magnitude? (.inr rfl), read]
    rfl
  · rw [text_double, written]
    cases negative with
    | true => decide
    | false => decide

/-- The text of a finite double is read as a number. -/
theorem legible_double (negative : Bool) {magnitude : Magnitude} (finite : magnitude.Finite) :
    (Number.double negative magnitude).Legible := by
  by_cases zero : magnitude.significand = 0
  · exact legible_zero negative zero
  by_cases greatest : magnitude = largest
  · rw [greatest]
    exact legible_largest negative
  have moderate := moderateDecimal_shortest finite (Nat.pos_of_ne_zero zero) greatest
  obtain ⟨parts, readable, text⟩ : ∃ parts : NumberParts, parts.Moderate ∧
      parts.text = signText negative ++ magnitudeText magnitude := by
    rw [magnitudeText, if_neg zero]
    dsimp only
    split
    · next plain =>
        simp only [Bool.and_eq_true, decide_eq_true_eq] at plain
        by_cases small : (shortest magnitude).exponent < 0
        · exact exists_parts_of_plain_neg moderate negative small
        · exact exists_parts_of_plain_nonneg moderate negative (not_lt.1 small) plain.2
    · exact exists_parts_of_scientific moderate negative
  obtain ⟨number, value⟩ := readable.exists_number?
  exact legible_of_parts parts readable.literal value (by rw [text, text_double])

/-- A number as a reader can hold it: an integer of 64 bits or a finite
double. -/
inductive Number.Proper : Number → Prop where
  | integer {value : Int} (exact : ExactInteger value) : Proper (.integer value)
  | double (negative : Bool) {magnitude : Magnitude} (finite : magnitude.Finite) :
      Proper (.double negative magnitude)

theorem Number.Proper.legible {number : Number} (proper : number.Proper) : number.Legible := by
  cases proper with
  | integer exact => exact (Number.Exact.integer exact).legible
  | double negative finite => exact legible_double negative finite

end DiagramGraph.Json
