import DiagramGraph.Json.Value

/-!
# JSON string literals

Reading accepts every escape of the standard; a character beyond the basic
plane may be written as a pair of surrogates, and half a pair is refused, as is
a raw control character. Writing escapes the quote, the backslash and the
control characters below U+0020 and leaves everything else as it is.
-/

namespace DiagramGraph.Json

/-! ## Reading -/

/-- The value of a hexadecimal digit in either case. -/
def hexValue? (char : Char) : Option Nat :=
  if '0' ≤ char ∧ char ≤ '9' then some (char.toNat - '0'.toNat)
  else if 'a' ≤ char ∧ char ≤ 'f' then some (char.toNat - 'a'.toNat + 10)
  else if 'A' ≤ char ∧ char ≤ 'F' then some (char.toNat - 'A'.toNat + 10)
  else none

/-- Four hexadecimal digits and the text behind them. -/
def codeUnit? : List Char → Option (Nat × List Char)
  | first :: second :: third :: fourth :: rest => do
      let first ← hexValue? first
      let second ← hexValue? second
      let third ← hexValue? third
      let fourth ← hexValue? fourth
      return (((first * 16 + second) * 16 + third) * 16 + fourth, rest)
  | _ => none

/-- Whether a code unit is the first half of a surrogate pair. -/
def isHighSurrogate (unit : Nat) : Bool :=
  0xd800 ≤ unit && unit ≤ 0xdbff

/-- Whether a code unit is the second half of a surrogate pair. -/
def isLowSurrogate (unit : Nat) : Bool :=
  0xdc00 ≤ unit && unit ≤ 0xdfff

/-- The character of an escape by number, given the text behind `\u`. -/
def numberedEscape? (text : List Char) : Option (Char × List Char) := do
  let (high, rest) ← codeUnit? text
  if isHighSurrogate high then
    match rest with
    | '\\' :: 'u' :: rest => do
        let (low, rest) ← codeUnit? rest
        if isLowSurrogate low then
          return (Char.ofNat (0x10000 + (high - 0xd800) * 0x400 + (low - 0xdc00)), rest)
        else none
    | _ => none
  else if isLowSurrogate high then none
  else return (Char.ofNat high, rest)

/-- The character that a one-letter escape stands for. -/
def shortEscape? : Char → Option Char
  | '"' => some '"'
  | '\\' => some '\\'
  | '/' => some '/'
  | 'b' => some '\x08'
  | 'f' => some '\x0c'
  | 'n' => some '\n'
  | 'r' => some '\r'
  | 't' => some '\t'
  | _ => none

/-- One character of a string literal, written plainly or as an escape. -/
def stringChar? : List Char → Option (Char × List Char)
  | [] => none
  | '\\' :: 'u' :: rest => numberedEscape? rest
  | '\\' :: letter :: rest => (shortEscape? letter).map fun char => (char, rest)
  | char :: rest => if char = '\\' ∨ char.toNat < 0x20 then none else some (char, rest)

theorem codeUnit?_length {text rest : List Char} {unit : Nat}
    (read : codeUnit? text = some (unit, rest)) : rest.length < text.length := by
  unfold codeUnit? at read
  split at read
  · simp only [Option.bind_eq_bind, Option.bind_eq_some_iff, Option.pure_def,
      Option.some.injEq, Prod.mk.injEq] at read
    obtain ⟨_, _, _, _, _, _, _, _, _, rfl⟩ := read
    simp only [List.length_cons]
    omega
  · simp at read

theorem numberedEscape?_length {text rest : List Char} {char : Char}
    (read : numberedEscape? text = some (char, rest)) : rest.length < text.length := by
  simp only [numberedEscape?, Option.bind_eq_bind, Option.bind_eq_some_iff] at read
  obtain ⟨⟨high, afterHigh⟩, highRead, read⟩ := read
  have shorter := codeUnit?_length highRead
  simp only at read
  split at read
  · split at read
    · next afterMark =>
      simp only [Option.bind_eq_some_iff] at read
      obtain ⟨⟨low, afterLow⟩, lowRead, read⟩ := read
      have := codeUnit?_length lowRead
      split at read
      · simp only [Option.pure_def, Option.some.injEq, Prod.mk.injEq] at read
        obtain ⟨-, rfl⟩ := read
        simp only [List.length_cons] at *
        omega
      · simp at read
    · simp at read
  · split at read
    · simp at read
    · simp only [Option.pure_def, Option.some.injEq, Prod.mk.injEq] at read
      obtain ⟨-, rfl⟩ := read
      exact shorter

/-- Reading a character of a string literal uses up some of the text. -/
theorem stringChar?_length {text rest : List Char} {char : Char}
    (read : stringChar? text = some (char, rest)) : rest.length < text.length := by
  unfold stringChar? at read
  split at read
  · simp at read
  · have := numberedEscape?_length read
    simp only [List.length_cons]
    omega
  · simp only [Option.map_eq_some_iff, Prod.mk.injEq] at read
    obtain ⟨_, _, _, rfl⟩ := read
    simp only [List.length_cons]
    omega
  · split at read
    · simp at read
    · simp only [Option.some.injEq, Prod.mk.injEq] at read
      obtain ⟨_, rfl⟩ := read
      simp

/-- The characters of a string literal up to its closing quote, and the text
behind it. -/
def stringBody? (text : List Char) : Option (List Char × List Char) :=
  match text with
  | '"' :: rest => some ([], rest)
  | text =>
      match read : stringChar? text with
      | none => none
      | some (char, rest) =>
          have := stringChar?_length read
          (stringBody? rest).map fun (chars, rest) => (char :: chars, rest)
termination_by text.length

/-! ## Writing -/

/-- A hexadecimal digit in lower case. -/
def hexDigit (value : Nat) : Char :=
  Nat.digitChar value

/-- One character as it stands in a string literal. -/
def writtenChar (char : Char) : List Char :=
  match char with
  | '"' => ['\\', '"']
  | '\\' => ['\\', '\\']
  | '\x08' => ['\\', 'b']
  | '\x0c' => ['\\', 'f']
  | '\n' => ['\\', 'n']
  | '\r' => ['\\', 'r']
  | '\t' => ['\\', 't']
  | char =>
      if char.toNat < 0x20 then
        ['\\', 'u', '0', '0', hexDigit (char.toNat / 16), hexDigit (char.toNat % 16)]
      else [char]

/-- A text as a string literal. -/
def writtenString (text : List Char) : List Char :=
  '"' :: text.flatMap writtenChar ++ ['"']

end DiagramGraph.Json
