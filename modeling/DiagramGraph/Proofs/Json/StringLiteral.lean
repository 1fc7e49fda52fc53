import DiagramGraph.Json.Token

/-!
# String literals read back

A character of a text can be spelled in several ways between the quotes of a
literal: as itself, by a short escape, or by the numbers of its code units in
hexadecimal digits of either case. The reader takes each spelling as a whole,
whatever follows it, so no two spellings can run into each other and every
literal is read as the text that it spells. What the writer puts down is one of
these spellings.
-/

namespace DiagramGraph.Json

/-! ## Spellings -/

/-- The letters of the short escapes, with the characters they stand for. -/
def shortEscapes : List (Char × Char) :=
  [ ('"', '"'), ('\\', '\\'), ('/', '/'), ('b', '\x08'), ('f', '\x0c'), ('n', '\n'), ('r', '\r'),
    ('t', '\t') ]

/-- A hexadecimal digit in lower or in upper case. -/
def HexDigit (value : Nat) (char : Char) : Prop :=
  "0123456789abcdef".toList[value]? = some char ∨ "0123456789ABCDEF".toList[value]? = some char

/-- A code unit by its four hexadecimal digits. -/
inductive UnitSpelled (unit : Nat) : List Char → Prop where
  | digits {first second third fourth : Char} (small : unit < 0x10000)
      (thousands : HexDigit (unit / 0x1000) first)
      (hundreds : HexDigit (unit / 0x100 % 0x10) second)
      (tens : HexDigit (unit / 0x10 % 0x10) third) (ones : HexDigit (unit % 0x10) fourth) :
      UnitSpelled unit [first, second, third, fourth]

/-- How a character may be written in a string literal. One beyond the basic
plane has two code units. -/
inductive CharSpelled (char : Char) : List Char → Prop where
  | plain (noQuote : char ≠ '"') (noBackslash : char ≠ '\\') (noControl : 0x20 ≤ char.toNat) :
      CharSpelled char [char]
  | short {letter : Char} (listed : (letter, char) ∈ shortEscapes) :
      CharSpelled char ['\\', letter]
  | unit {digits : List Char} (spelled : UnitSpelled char.toNat digits) :
      CharSpelled char ('\\' :: 'u' :: digits)
  | pair {high low : List Char} (beyond : 0x10000 ≤ char.toNat)
      (first : UnitSpelled (0xd800 + (char.toNat - 0x10000) / 0x400) high)
      (second : UnitSpelled (0xdc00 + (char.toNat - 0x10000) % 0x400) low) :
      CharSpelled char ('\\' :: 'u' :: (high ++ '\\' :: 'u' :: low))

/-- How a text may be written between the quotes of a string literal. -/
inductive StringSpelled : List Char → List Char → Prop where
  | nil : StringSpelled [] []
  | cons {char : Char} {spelling text body : List Char} (spelled : CharSpelled char spelling)
      (others : StringSpelled text body) : StringSpelled (char :: text) (spelling ++ body)

/-! ## Numbered escapes -/

/-- Both cases of a digit are read. -/
theorem hexValue?_of_hexDigit {value : Nat} {char : Char} (digit : HexDigit value char) :
    hexValue? char = some value := by
  have lower : ∀ value < 16, ("0123456789abcdef".toList[value]?).bind hexValue? = some value := by
    decide
  have upper : ∀ value < 16, ("0123456789ABCDEF".toList[value]?).bind hexValue? = some value := by
    decide
  rcases digit with listed | listed
  · have read := lower value (List.getElem?_eq_some_iff.1 listed).1
    rwa [listed, Option.bind_some] at read
  · have read := upper value (List.getElem?_eq_some_iff.1 listed).1
    rwa [listed, Option.bind_some] at read

theorem codeUnit?_of_spelled {unit : Nat} {digits : List Char} (spelled : UnitSpelled unit digits)
    (rest : List Char) : codeUnit? (digits ++ rest) = some (unit, rest) := by
  obtain ⟨small, thousands, hundreds, tens, ones⟩ := spelled
  simp only [List.cons_append, List.nil_append, codeUnit?, hexValue?_of_hexDigit thousands,
    hexValue?_of_hexDigit hundreds, hexValue?_of_hexDigit tens, hexValue?_of_hexDigit ones,
    Option.bind_eq_bind, Option.bind_some, Option.pure_def, Option.some.injEq, Prod.mk.injEq,
    and_true]
  omega

/-- No character is half a surrogate pair. -/
theorem toNat_lt_or_lt (char : Char) :
    char.toNat < 0xd800 ∨ 0xdfff < char.toNat ∧ char.toNat < 0x110000 :=
  char.valid

/-- A code unit that is a character is read as that character. -/
theorem numberedEscape?_unit {char : Char} {digits : List Char}
    (spelled : UnitSpelled char.toNat digits) (rest : List Char) :
    numberedEscape? (digits ++ rest) = some (char, rest) := by
  have valid := toNat_lt_or_lt char
  have notHigh : isHighSurrogate char.toNat = false := by
    simp only [isHighSurrogate, Bool.and_eq_false_iff, decide_eq_false_iff_not]
    omega
  have notLow : isLowSurrogate char.toNat = false := by
    simp only [isLowSurrogate, Bool.and_eq_false_iff, decide_eq_false_iff_not]
    omega
  simp [numberedEscape?, codeUnit?_of_spelled spelled, notHigh, notLow]

/-- The two halves of a surrogate pair are put together. -/
theorem numberedEscape?_surrogates {highUnit lowUnit : Nat} {high low : List Char}
    (first : UnitSpelled highUnit high) (second : UnitSpelled lowUnit low)
    (isHigh : isHighSurrogate highUnit = true) (isLow : isLowSurrogate lowUnit = true)
    (rest : List Char) :
    numberedEscape? (high ++ '\\' :: 'u' :: (low ++ rest)) =
      some (Char.ofNat (0x10000 + (highUnit - 0xd800) * 0x400 + (lowUnit - 0xdc00)), rest) := by
  simp only [numberedEscape?, codeUnit?_of_spelled first, codeUnit?_of_spelled second, isHigh,
    isLow, Option.bind_eq_bind, Option.bind_some, if_true, Option.pure_def]

/-- A surrogate pair is read as one character. -/
theorem numberedEscape?_pair {char : Char} {high low : List Char}
    (beyond : 0x10000 ≤ char.toNat)
    (first : UnitSpelled (0xd800 + (char.toNat - 0x10000) / 0x400) high)
    (second : UnitSpelled (0xdc00 + (char.toNat - 0x10000) % 0x400) low) (rest : List Char) :
    numberedEscape? (high ++ '\\' :: 'u' :: (low ++ rest)) = some (char, rest) := by
  have valid := toNat_lt_or_lt char
  have isHigh : isHighSurrogate (0xd800 + (char.toNat - 0x10000) / 0x400) = true := by
    simp only [isHighSurrogate, Bool.and_eq_true, decide_eq_true_eq]
    omega
  have isLow : isLowSurrogate (0xdc00 + (char.toNat - 0x10000) % 0x400) = true := by
    simp only [isLowSurrogate, Bool.and_eq_true, decide_eq_true_eq]
    omega
  -- each half holds ten bits of the distance from the basic plane
  have together :
      0x10000 + (0xd800 + (char.toNat - 0x10000) / 0x400 - 0xd800) * 0x400 +
        (0xdc00 + (char.toNat - 0x10000) % 0x400 - 0xdc00) = char.toNat := by
    omega
  have read := numberedEscape?_surrogates first second isHigh isLow rest
  rwa [together, Char.ofNat_toNat] at read

/-! ## Characters -/

/-- A character that needs no escape is read as itself. -/
theorem stringChar?_plain {char : Char} (noBackslash : char ≠ '\\')
    (noControl : 0x20 ≤ char.toNat) (rest : List Char) :
    stringChar? (char :: rest) = some (char, rest) := by
  unfold stringChar?
  split
  · contradiction
  · next shape => simp_all
  · next shape => simp_all
  · next other after shape =>
      simp only [List.cons.injEq] at shape
      obtain ⟨rfl, rfl⟩ := shape
      rw [if_neg]
      rintro (backslash | control)
      · exact noBackslash backslash
      · omega

/-- A spelled character is read back, whatever follows it. -/
theorem stringChar?_of_spelled {char : Char} {spelling : List Char}
    (spelled : CharSpelled char spelling) (rest : List Char) :
    stringChar? (spelling ++ rest) = some (char, rest) := by
  cases spelled with
  | plain noQuote noBackslash noControl => exact stringChar?_plain noBackslash noControl rest
  | @short letter listed =>
      simp only [shortEscapes, List.mem_cons, Prod.mk.injEq, List.not_mem_nil, or_false] at listed
      rcases listed with ⟨rfl, rfl⟩ | ⟨rfl, rfl⟩ | ⟨rfl, rfl⟩ | ⟨rfl, rfl⟩ | ⟨rfl, rfl⟩ |
        ⟨rfl, rfl⟩ | ⟨rfl, rfl⟩ | ⟨rfl, rfl⟩ <;> rfl
  | unit spelled => exact numberedEscape?_unit spelled rest
  | pair beyond first second =>
      simp only [List.cons_append, List.append_assoc]
      exact numberedEscape?_pair beyond first second rest

/-- No spelling begins with the quote that closes a literal. -/
theorem spelling_ne_quote {char : Char} {spelling : List Char} (spelled : CharSpelled char spelling)
    (rest after : List Char) : spelling ++ rest ≠ '"' :: after := by
  cases spelled with
  | plain noQuote _ _ =>
      intro shape
      exact noQuote (List.cons.inj shape).1
  | short listed => simp
  | unit spelled => simp
  | pair beyond first second => simp

/-! ## Literals -/

theorem stringBody?_quote (rest : List Char) : stringBody? ('"' :: rest) = some ([], rest) := by
  rw [stringBody?]

/-- A spelled character in front of a literal's body is read first. -/
theorem stringBody?_spelling_append {char : Char} {spelling : List Char}
    (spelled : CharSpelled char spelling) (rest : List Char) :
    stringBody? (spelling ++ rest) =
      (stringBody? rest).map fun (chars, after) => (char :: chars, after) := by
  rw [stringBody?.eq_def]
  split
  · next shape => exact absurd shape (spelling_ne_quote spelled rest _)
  · split
    · next unread =>
        rw [stringChar?_of_spelled spelled] at unread
        contradiction
    · next found =>
        rw [stringChar?_of_spelled spelled] at found
        simp only [Option.some.injEq, Prod.mk.injEq] at found
        obtain ⟨rfl, rfl⟩ := found
        rfl

/-- The body of a literal is read up to its closing quote. -/
theorem stringBody?_of_spelled {text body : List Char} (spelled : StringSpelled text body)
    (rest : List Char) : stringBody? (body ++ '"' :: rest) = some (text, rest) := by
  induction spelled with
  | nil => exact stringBody?_quote rest
  | cons spelled _ ih =>
      rw [List.append_assoc, stringBody?_spelling_append spelled, ih]
      rfl

/-- A literal is one token. -/
theorem token?_of_stringSpelled {text body : List Char} (spelled : StringSpelled text body)
    (rest : List Char) : token? ('"' :: (body ++ '"' :: rest)) = some (.string text, rest) := by
  simp only [token?, stringBody?_of_spelled spelled, Option.map_some]

/-! ## What the writer puts down -/

/-- The digits of the writer are in lower case. -/
theorem hexDigit_hexDigit {value : Nat} (small : value < 16) : HexDigit value (hexDigit value) := by
  have listed : ∀ value < 16, "0123456789abcdef".toList[value]? = some (hexDigit value) := by
    decide
  exact .inl (listed value small)

theorem charSpelled_writtenChar (char : Char) : CharSpelled char (writtenChar char) := by
  unfold writtenChar
  split
  · exact .short (by decide)
  · exact .short (by decide)
  · exact .short (by decide)
  · exact .short (by decide)
  · exact .short (by decide)
  · exact .short (by decide)
  · exact .short (by decide)
  · next noQuote noBackslash _ _ _ _ _ =>
      split
      · next control =>
          have zero : HexDigit 0 '0' := .inl rfl
          have first : char.toNat / 0x1000 = 0 := by omega
          have second : char.toNat / 0x100 % 0x10 = 0 := by omega
          have third : char.toNat / 0x10 % 0x10 = char.toNat / 16 := by omega
          refine .unit (.digits (by omega) (first ▸ zero) (second ▸ zero) ?_ ?_)
          · rw [third]
            exact hexDigit_hexDigit (by omega)
          · exact hexDigit_hexDigit (by omega)
      · next plain => exact .plain noQuote noBackslash (by omega)

theorem stringSpelled_writtenChars (text : List Char) :
    StringSpelled text (text.flatMap writtenChar) := by
  induction text with
  | nil => exact .nil
  | cons char text ih => exact .cons (charSpelled_writtenChar char) ih

/-- A written literal is one token. -/
theorem token?_writtenString (text rest : List Char) :
    token? (writtenString text ++ rest) = some (.string text, rest) := by
  have token := token?_of_stringSpelled (stringSpelled_writtenChars text) rest
  simpa [writtenString] using token

end DiagramGraph.Json
