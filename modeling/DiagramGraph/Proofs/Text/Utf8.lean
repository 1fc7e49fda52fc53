import DiagramGraph.Text.Utf8

/-!
# UTF-8 is read as it is written

The bytes of a text are decoded to the text, and no other bytes are. A character
is a unit of its own: its lead byte tells how many bytes follow, and the second
byte is in the range that the lead byte leaves open, because the code point is
neither too small for its length nor a surrogate.
-/

namespace DiagramGraph.Text.Utf8

/-! ## Single bytes -/

theorem toNat_ofNat {value : Nat} (small : value < 0x100) : (UInt8.ofNat value).toNat = value := by
  rw [UInt8.toNat_ofNat', Nat.mod_eq_of_lt small]

/-- The byte that continues a character with the last bits of a value. -/
theorem toNat_tailByte (value : Nat) :
    (UInt8.ofNat (0x80 + value % 0x40)).toNat = 0x80 + value % 0x40 :=
  toNat_ofNat (by omega)

theorem isTail_tailByte (value : Nat) : isTail (0x80 + value % 0x40) = true := by
  simp only [isTail, Bool.and_eq_true, decide_eq_true_eq]
  omega

/-- A tail byte adds its bits to what was read. -/
theorem tail_tailByte (code seen extra value : Nat) (rest : List UInt8) :
    tail code seen (extra + 1) (UInt8.ofNat (0x80 + value % 0x40) :: rest) =
      tail (code * 0x40 + value % 0x40) (seen + 1) extra rest := by
  have bits : (0x80 + value % 0x40) % 0x40 = value % 0x40 := by omega
  rw [tail, toNat_tailByte, if_pos (isTail_tailByte value), bits]

/-! ## Lead bytes -/

/-- A code point of two bytes. -/
theorem shape?_two {code : Nat} (least : 0x80 ≤ code) (most : code < 0x800) :
    shape? (0xc0 + code / 0x40) = some (0x80, 0xbf, 0) := by
  have range : (0xc2 ≤ 0xc0 + code / 0x40 && 0xc0 + code / 0x40 ≤ 0xdf) = true := by
    simp only [Bool.and_eq_true, decide_eq_true_eq]
    omega
  rw [shape?, if_pos range]

/-- A code point of three bytes that is no surrogate. -/
theorem shape?_three {code : Nat} (least : 0x800 ≤ code) (most : code < 0x10000)
    (scalar : code < 0xd800 ∨ 0xdfff < code) :
    ∃ low high, shape? (0xe0 + code / 0x1000) = some (low, high, 1) ∧
      low ≤ 0x80 + code / 0x40 % 0x40 ∧ 0x80 + code / 0x40 % 0x40 ≤ high := by
  simp only [shape?, beq_iff_eq, Bool.and_eq_true, decide_eq_true_eq]
  rw [if_neg (by omega)]
  by_cases first : 0xe0 + code / 0x1000 = 0xe0
  · exact ⟨0xa0, 0xbf, by rw [if_pos first], by omega, by omega⟩
  · rw [if_neg first]
    by_cases surrogates : 0xe0 + code / 0x1000 = 0xed
    · exact ⟨0x80, 0x9f, by rw [if_pos surrogates], by omega, by omega⟩
    · rw [if_neg surrogates]
      exact ⟨0x80, 0xbf, by rw [if_pos (by omega)], by omega, by omega⟩

/-- A code point of four bytes. -/
theorem shape?_four {code : Nat} (least : 0x10000 ≤ code) (most : code < 0x110000) :
    ∃ low high, shape? (0xf0 + code / 0x40000) = some (low, high, 2) ∧
      low ≤ 0x80 + code / 0x1000 % 0x40 ∧ 0x80 + code / 0x1000 % 0x40 ≤ high := by
  simp only [shape?, beq_iff_eq, Bool.and_eq_true, decide_eq_true_eq]
  rw [if_neg (by omega), if_neg (by omega), if_neg (by omega), if_neg (by omega)]
  by_cases first : 0xf0 + code / 0x40000 = 0xf0
  · exact ⟨0x90, 0xbf, by rw [if_pos first], by omega, by omega⟩
  · rw [if_neg first]
    by_cases last : 0xf0 + code / 0x40000 = 0xf4
    · exact ⟨0x80, 0x8f, by rw [if_neg (by omega), if_pos last], by omega, by omega⟩
    · exact ⟨0x80, 0xbf, by rw [if_pos (by omega)], by omega, by omega⟩

/-! ## Characters -/

/-- A character of several bytes is read from its second byte on. -/
theorem unit_of_shape? {lead low high extra value : Nat} (rest : List UInt8)
    (small : lead < 0x100) (long : 0x80 ≤ lead) (shape : shape? lead = some (low, high, extra))
    (least : low ≤ 0x80 + value % 0x40) (most : 0x80 + value % 0x40 ≤ high) :
    unit (UInt8.ofNat lead) (UInt8.ofNat (0x80 + value % 0x40) :: rest) =
      tail (leadBits lead extra * 0x40 + value % 0x40) 1 extra rest := by
  have bits : (0x80 + value % 0x40) % 0x40 = value % 0x40 := by omega
  have range : (low ≤ 0x80 + value % 0x40 && 0x80 + value % 0x40 ≤ high) = true := by
    simp [least, most]
  simp only [unit, toNat_ofNat small, if_neg (Nat.not_lt.2 long), shape, toNat_tailByte]
  rw [if_pos range, bits]

section CodePoint

variable {code : Nat}

theorem unit_one (most : code < 0x80) (rest : List UInt8) :
    unit (UInt8.ofNat code) rest = .char (Char.ofNat code) 0 := by
  rw [unit, toNat_ofNat (by omega), if_pos most]

theorem unit_two (least : 0x80 ≤ code) (most : code < 0x800) (rest : List UInt8) :
    unit (UInt8.ofNat (0xc0 + code / 0x40)) (UInt8.ofNat (0x80 + code % 0x40) :: rest) =
      .char (Char.ofNat code) 1 := by
  have bits : leadBits (0xc0 + code / 0x40) 0 * 0x40 + code % 0x40 = code := by
    simp only [leadBits]
    omega
  rw [unit_of_shape? rest (by omega) (by omega) (shape?_two least most) (by omega) (by omega), bits,
    tail]

theorem unit_three (least : 0x800 ≤ code) (most : code < 0x10000)
    (scalar : code < 0xd800 ∨ 0xdfff < code) (rest : List UInt8) :
    unit (UInt8.ofNat (0xe0 + code / 0x1000))
        (UInt8.ofNat (0x80 + code / 0x40 % 0x40) :: UInt8.ofNat (0x80 + code % 0x40) :: rest) =
      .char (Char.ofNat code) 2 := by
  rcases shape?_three least most scalar with ⟨low, high, shape, above, below⟩
  have bits : (leadBits (0xe0 + code / 0x1000) 1 * 0x40 + code / 0x40 % 0x40) * 0x40 +
      code % 0x40 = code := by
    simp only [leadBits]
    omega
  rw [unit_of_shape? _ (by omega) (by omega) shape above below, tail_tailByte, bits, tail]

theorem unit_four (least : 0x10000 ≤ code) (most : code < 0x110000) (rest : List UInt8) :
    unit (UInt8.ofNat (0xf0 + code / 0x40000))
        (UInt8.ofNat (0x80 + code / 0x1000 % 0x40) :: UInt8.ofNat (0x80 + code / 0x40 % 0x40) ::
          UInt8.ofNat (0x80 + code % 0x40) :: rest) =
      .char (Char.ofNat code) 3 := by
  rcases shape?_four least most with ⟨low, high, shape, above, below⟩
  have bits : ((leadBits (0xf0 + code / 0x40000) 2 * 0x40 + code / 0x1000 % 0x40) * 0x40 +
      code / 0x40 % 0x40) * 0x40 + code % 0x40 = code := by
    simp only [leadBits]
    omega
  rw [unit_of_shape? _ (by omega) (by omega) shape above below, tail_tailByte, tail_tailByte, bits,
    tail]

end CodePoint

/-- The bytes of a character make one unit, which is the character. -/
theorem unit_encodeChar (char : Char) (rest : List UInt8) :
    ∃ lead more, encodeChar char = lead :: more ∧
      unit lead (more ++ rest) = .char char more.length := by
  have scalar : char.toNat < 0xd800 ∨ 0xdfff < char.toNat ∧ char.toNat < 0x110000 := char.valid
  have same : Char.ofNat char.toNat = char := Char.ofNat_toNat char
  simp only [encodeChar]
  split
  · next one =>
      have read := unit_one one rest
      rw [same] at read
      exact ⟨_, _, rfl, read⟩
  split
  · next one two =>
      have read := unit_two (Nat.not_lt.1 one) two rest
      rw [same] at read
      exact ⟨_, _, rfl, read⟩
  split
  · next two three =>
      have read := unit_three (Nat.not_lt.1 two) three (scalar.imp id And.left) rest
      rw [same] at read
      exact ⟨_, _, rfl, read⟩
  · next three =>
      have most : char.toNat < 0x110000 := by omega
      have read := unit_four (Nat.not_lt.1 three) most rest
      rw [same] at read
      exact ⟨_, _, rfl, read⟩

/-! ## Texts -/

theorem decodeFrom_encode (text : List Char) (index : Nat) :
    decodeFrom index (encode text) = .ok text := by
  induction text generalizing index with
  | nil => rw [encode, List.flatMap_nil, decodeFrom]
  | cons char text ih =>
      rcases unit_encodeChar char (encode text) with ⟨lead, more, bytes, unit⟩
      have split : encode (char :: text) = lead :: (more ++ encode text) := by
        rw [encode, List.flatMap_cons, bytes]
        rfl
      rw [split, decodeFrom, unit]
      simp only [List.drop_left, ih]
      rfl

/-- The bytes of a text are decoded to the text. -/
theorem decode_encode (text : List Char) : decode (encode text) = .ok text :=
  decodeFrom_encode text 0

/-- In a text of ASCII characters each stands for the byte with its code. -/
theorem encode_of_ascii {text : List Char} (ascii : ∀ char ∈ text, char.toNat < 0x80) :
    encode text = text.map fun char => UInt8.ofNat char.toNat := by
  induction text with
  | nil => rfl
  | cons char text ih =>
      have parts := List.forall_mem_cons.1 ascii
      have one : encodeChar char = [UInt8.ofNat char.toNat] := if_pos parts.1
      have rest : text.flatMap encodeChar = text.map fun char => UInt8.ofNat char.toNat :=
        ih parts.2
      rw [encode, List.flatMap_cons, one, rest, List.singleton_append, List.map_cons]

theorem length_encode_of_ascii {text : List Char} (ascii : ∀ char ∈ text, char.toNat < 0x80) :
    (encode text).length = text.length := by
  rw [encode_of_ascii ascii, List.length_map]

/-! ## Bytes that are text -/

/-- The first two bytes of a character of several bytes: how many bytes follow
them, and the bits that they hold. What follows leaves each code point in the
range of its length and off the surrogates. -/
inductive Opening (lead second : Nat) : Nat → Nat → Prop where
  | two {top : Nat} (least : 0x80 ≤ top) (most : top < 0x800) (first : lead = 0xc0 + top / 0x40)
      (next : second = 0x80 + top % 0x40) : Opening lead second 0 top
  | three {top : Nat} (least : 0x20 ≤ top) (most : top < 0x400) (scalar : top < 0x360 ∨ 0x37f < top)
      (first : lead = 0xe0 + top / 0x40) (next : second = 0x80 + top % 0x40) :
      Opening lead second 1 top
  | four {top : Nat} (least : 0x10 ≤ top) (most : top < 0x110) (first : lead = 0xf0 + top / 0x40)
      (next : second = 0x80 + top % 0x40) : Opening lead second 2 top

theorem opening_of_shape? {lead second low high extra : Nat}
    (shape : shape? lead = some (low, high, extra)) (least : low ≤ second) (most : second ≤ high) :
    Opening lead second extra (leadBits lead extra * 0x40 + second % 0x40) := by
  simp only [shape?, Bool.and_eq_true, decide_eq_true_eq, beq_iff_eq] at shape
  split at shape
  · cases shape
    apply Opening.two <;> (simp only [leadBits]; omega)
  split at shape
  · cases shape
    apply Opening.three <;> (simp only [leadBits]; omega)
  split at shape
  · cases shape
    apply Opening.three <;> (simp only [leadBits]; omega)
  split at shape
  · cases shape
    apply Opening.three <;> (simp only [leadBits]; omega)
  split at shape
  · cases shape
    apply Opening.four <;> (simp only [leadBits]; omega)
  split at shape
  · cases shape
    apply Opening.four <;> (simp only [leadBits]; omega)
  split at shape
  · cases shape
    apply Opening.four <;> (simp only [leadBits]; omega)
  · contradiction

/-- A byte that continues a character holds six bits. -/
theorem exists_tailByte {code seen extra : Nat} {bytes : List UInt8} {char : Char} {more : Nat}
    (read : tail code seen (extra + 1) bytes = .char char more) :
    ∃ bits < 0x40, ∃ rest, bytes = UInt8.ofNat (0x80 + bits % 0x40) :: rest ∧
      tail (code * 0x40 + bits) (seen + 1) extra rest = .char char more := by
  cases bytes with
  | nil => contradiction
  | cons byte rest =>
      rw [tail] at read
      split at read
      · next isTail =>
          simp only [Utf8.isTail, Bool.and_eq_true, decide_eq_true_eq] at isTail
          have whole : 0x80 + byte.toNat % 0x40 % 0x40 = byte.toNat := by omega
          refine ⟨byte.toNat % 0x40, by omega, rest, ?_, read⟩
          rw [whole, UInt8.ofNat_toNat]
      · contradiction

theorem toNat_char {code : Nat} (scalar : code < 0xd800 ∨ 0xdfff < code ∧ code < 0x110000) :
    (Char.ofNat code).toNat = code := by
  rw [Char.ofNat, dif_pos scalar]
  rfl

section Read

variable {char : Char} {more : Nat}

/-- The bits of an opening and of the bytes behind it are those of the character,
one case per length. -/
theorem encodeChar_append_of_opening {lead second : UInt8} {extra top : Nat} {rest : List UInt8}
    (opening : Opening lead.toNat second.toNat extra top)
    (read : tail top 1 extra rest = .char char more) :
    encodeChar char ++ (second :: rest).drop more = lead :: second :: rest := by
  cases opening with
  | two least most first next =>
      rw [tail] at read
      cases read
      rw [encodeChar, toNat_char (by omega), if_neg (by omega), if_pos (by omega)]
      dsimp only
      rw [← first, ← next, UInt8.ofNat_toNat, UInt8.ofNat_toNat]
      rfl
  | three least most scalar first next =>
      obtain ⟨bits, small, behind, rfl, ended⟩ := exists_tailByte read
      rw [tail] at ended
      cases ended
      have leading : 0xe0 + (top * 0x40 + bits) / 0x1000 = lead.toNat := by omega
      have middle : 0x80 + (top * 0x40 + bits) / 0x40 % 0x40 = second.toNat := by omega
      have last : (top * 0x40 + bits) % 0x40 = bits % 0x40 := by omega
      rw [encodeChar, toNat_char (by omega), if_neg (by omega), if_neg (by omega),
        if_pos (by omega)]
      dsimp only
      rw [leading, middle, last, UInt8.ofNat_toNat, UInt8.ofNat_toNat]
      rfl
  | four least most first next =>
      obtain ⟨upper, smallUpper, behind, rfl, continued⟩ := exists_tailByte read
      obtain ⟨lower, smallLower, behind, rfl, ended⟩ := exists_tailByte continued
      rw [tail] at ended
      cases ended
      have leading : 0xf0 + ((top * 0x40 + upper) * 0x40 + lower) / 0x40000 = lead.toNat := by
        omega
      have middle : 0x80 + ((top * 0x40 + upper) * 0x40 + lower) / 0x1000 % 0x40 =
          second.toNat := by omega
      have third : ((top * 0x40 + upper) * 0x40 + lower) / 0x40 % 0x40 = upper % 0x40 := by omega
      have last : ((top * 0x40 + upper) * 0x40 + lower) % 0x40 = lower % 0x40 := by omega
      rw [encodeChar, toNat_char (by omega), if_neg (by omega), if_neg (by omega),
        if_neg (by omega)]
      dsimp only
      rw [leading, middle, third, last, UInt8.ofNat_toNat, UInt8.ofNat_toNat]
      rfl

/-- A unit that is a character takes the bytes of the character. -/
theorem encodeChar_append_of_unit {lead : UInt8} {rest : List UInt8}
    (read : unit lead rest = .char char more) :
    encodeChar char ++ rest.drop more = lead :: rest := by
  rw [unit] at read
  split at read
  · next one =>
      cases read
      rw [encodeChar, toNat_char (by omega), if_pos one, UInt8.ofNat_toNat]
      rfl
  split at read
  · contradiction
  next low high extra shape =>
  cases rest with
  | nil => contradiction
  | cons second rest =>
      dsimp only at read
      split at read
      · next range =>
          rw [Bool.and_eq_true, decide_eq_true_eq, decide_eq_true_eq] at range
          exact encodeChar_append_of_opening (opening_of_shape? shape range.1 range.2) read
      · contradiction

end Read

theorem encode_of_decodeFrom {index : Nat} {bytes : List UInt8} {text : List Char}
    (read : decodeFrom index bytes = .ok text) : encode text = bytes := by
  fun_induction decodeFrom index bytes generalizing text with
  | case1 =>
      cases read
      rfl
  | case2 index lead rest char more single ih =>
      cases others : decodeFrom (index + 1 + more) (rest.drop more) with
      | error fault =>
          rw [others] at read
          contradiction
      | ok behind =>
          rw [others] at read
          cases read
          rw [encode, List.flatMap_cons]
          calc
            encodeChar char ++ encode behind = encodeChar char ++ rest.drop more := by
              rw [ih others]
            _ = lead :: rest := encodeChar_append_of_unit single
  | case3 => contradiction
  | case4 => contradiction

/-- Bytes are decoded to a text exactly if they are those of the text. -/
theorem decode_eq_ok_iff {bytes : List UInt8} {text : List Char} :
    decode bytes = .ok text ↔ encode text = bytes := by
  constructor
  · exact encode_of_decodeFrom
  · rintro rfl
    exact decode_encode text

theorem encode_inj {text other : List Char} : encode text = encode other ↔ text = other := by
  rw [← decode_eq_ok_iff, decode_encode, Except.ok.injEq, eq_comm]

end DiagramGraph.Text.Utf8
